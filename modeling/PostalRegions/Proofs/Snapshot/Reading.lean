import Mathlib.Data.List.Basic
import PostalRegions.Snapshot.Store

/-!
# Reading back what was written

The tables of a snapshot and the facts about it are read back as they were written.  There are
two limits: a row without a postal code is passed over, and a count is read only as far as it
fits into 64 bits.
-/

namespace PostalRegions

/-! ## Counts -/

namespace Text

theorem le_ofDigitChars (digits : List Char) (value : Nat) :
    value ≤ Nat.ofDigitChars 10 digits value := by
  induction digits generalizing value with
  | nil => simp
  | cons c rest ih =>
      rw [Nat.ofDigitChars_cons]
      have hrest := ih (10 * value + (c.toNat - '0'.toNat))
      omega

theorem digitsFrom_eq {digits : List Char} (hdigits : ∀ c ∈ digits, c.isDigit = true)
    {value : Nat} (hvalue : value < countBound) :
    digitsFrom value digits =
      if Nat.ofDigitChars 10 digits value < countBound then
        .ok (Nat.ofDigitChars 10 digits value)
      else .error .tooLarge := by
  induction digits generalizing value with
  | nil =>
      rw [Nat.ofDigitChars_nil, if_pos hvalue]
      rfl
  | cons c rest ih =>
      have hhead : c.isDigit = true := hdigits c (List.mem_cons_self)
      have hrest : ∀ other ∈ rest, other.isDigit = true :=
        fun other hother => hdigits other (List.mem_cons_of_mem c hother)
      rw [digitsFrom, if_pos hhead, Nat.ofDigitChars_cons]
      dsimp only
      by_cases hnext : 10 * value + (c.toNat - '0'.toNat) < countBound
      · rw [if_pos hnext]
        exact ih hrest hnext
      · have hlarge := le_ofDigitChars rest (10 * value + (c.toNat - '0'.toNat))
        rw [if_neg hnext, if_neg (by omega)]

/-- A written count is read back if it fits. -/
theorem parseCount_toString (count : Nat) :
    parseCount (toString count) = if count < countBound then .ok count else .error .tooLarge := by
  have hdigits : ∀ c ∈ Nat.toDigits 10 count, c.isDigit = true :=
    fun c hc => Nat.isDigit_of_mem_toDigits (by decide) (by decide) hc
  have hread : digitsFrom 0 (Nat.toDigits 10 count) =
      if count < countBound then .ok count else .error .tooLarge := by
    rw [digitsFrom_eq hdigits (by decide), Nat.ofDigitChars_ten_toDigits]
  have htext : (toString count).toList = Nat.toDigits 10 count := by simp
  unfold parseCount
  rw [htext]
  split
  · rename_i hnil
    exact absurd hnil Nat.toDigits_ne_nil
  · rename_i hplus
    exact absurd (hdigits '+' (by rw [hplus]; simp)) (by decide)
  · rename_i rest hplus
    exact absurd (hdigits '+' (by rw [hplus]; simp)) (by decide)
  · exact hread

theorem lt_of_digitsFrom {digits : List Char} {value count : Nat} (hvalue : value < countBound)
    (hread : digitsFrom value digits = .ok count) : count < countBound := by
  induction digits generalizing value with
  | nil =>
      cases hread
      exact hvalue
  | cons c rest ih =>
      rw [digitsFrom] at hread
      split at hread
      · dsimp only at hread
        split at hread
        · rename_i hnext
          exact ih hnext hread
        · cases hread
      · cases hread

theorem lt_of_parseCount {text : String} {count : Nat} (hread : parseCount text = .ok count) :
    count < countBound := by
  unfold parseCount at hread
  split at hread
  · cases hread
  · cases hread
  · exact lt_of_digitsFrom (by decide) hread
  · exact lt_of_digitsFrom (by decide) hread

end Text

/-! ## Facts -/

namespace Metadata

def stored (metadata : Metadata) : MetadataKey → String
  | .version => metadata.version
  | .createdAt => metadata.createdAt.written
  | .exactCount => toString metadata.exactCount
  | .estimateCount => toString metadata.estimateCount
  | .fingerprint => metadata.fingerprint

theorem lookup_toPairs (metadata : Metadata) (key : MetadataKey) :
    metadata.toPairs.lookup key.name = some (metadata.stored key) := by
  cases key <;> simp [toPairs, MetadataKey.name, stored, List.lookup_cons]

@[simp] theorem textOf_toPairs (metadata : Metadata) (key : MetadataKey) :
    textOf metadata.toPairs key = .ok (metadata.stored key) := by
  unfold textOf
  rw [lookup_toPairs]

/-- The facts as they are read back: at the written time, and with no estimates if there are too
many. -/
def readBack (metadata : Metadata) (created : Instant) : Metadata :=
  { metadata with
    createdAt := created
    estimateCount :=
      if metadata.estimateCount < Text.countBound then metadata.estimateCount else 0 }

/-- The facts are read back as they were, unless another time is, or there are too many
estimates. -/
theorem eq_readBack_iff {metadata : Metadata} {created : Instant} :
    metadata = metadata.readBack created ↔
      metadata.createdAt = created ∧ metadata.estimateCount < Text.countBound := by
  constructor
  · intro hsame
    have hcreated := congrArg Metadata.createdAt hsame
    have hcount := congrArg Metadata.estimateCount hsame
    refine ⟨hcreated, ?_⟩
    by_contra hlarge
    simp only [readBack, if_neg hlarge] at hcount
    exact hlarge (hcount ▸ by decide)
  · rintro ⟨rfl, hsmall⟩
    rw [readBack, if_pos hsmall]

theorem ofPairs_toPairs (metadata : Metadata) :
    ofPairs metadata.toPairs =
      match Instant.parse? metadata.createdAt.written with
      | none => .error ⟨.createdAt, .unreadableTime⟩
      | some created =>
        if metadata.exactCount < Text.countBound then .ok (metadata.readBack created)
        else .error ⟨.exactCount, .unreadableCount .tooLarge⟩ := by
  have hcounts (key : MetadataKey) : countOf metadata.toPairs key =
      (Text.parseCount (metadata.stored key)).mapError
        fun cause => ⟨key, .unreadableCount cause⟩ := by
    unfold countOf
    rw [textOf_toPairs]
  cases hparse : Instant.parse? metadata.createdAt.written with
  | none =>
      have htime : timeOf metadata.toPairs .createdAt = .error ⟨.createdAt, .unreadableTime⟩ := by
        simp only [timeOf, textOf_toPairs, stored, hparse]
      unfold ofPairs
      rw [htime]
      rfl
  | some created =>
      have htime : timeOf metadata.toPairs .createdAt = .ok created := by
        simp only [timeOf, textOf_toPairs, stored, hparse]
      unfold ofPairs
      rw [htime, textOf_toPairs, hcounts, hcounts, lookup_toPairs]
      simp only [stored, Text.parseCount_toString, readBack]
      by_cases hexact : metadata.exactCount < Text.countBound
      · by_cases hestimates : metadata.estimateCount < Text.countBound
        · simp only [if_pos hexact, if_pos hestimates]
          rfl
        · simp only [if_pos hexact, if_neg hestimates]
          rfl
      · simp only [if_neg hexact]
        rfl

theorem ofPairs_toPairs_eq_ok_iff {metadata found : Metadata} :
    ofPairs metadata.toPairs = .ok found ↔
      ∃ created, Instant.parse? metadata.createdAt.written = some created ∧
        metadata.exactCount < Text.countBound ∧ found = metadata.readBack created := by
  rw [ofPairs_toPairs]
  cases Instant.parse? metadata.createdAt.written with
  | none => simp
  | some created =>
      by_cases hexact : metadata.exactCount < Text.countBound
      · simp [hexact, eq_comm]
      · simp [hexact]

theorem exists_parse?_of_timeOf {pairs : List (String × String)} {key : MetadataKey}
    {instant : Instant} (hread : timeOf pairs key = .ok instant) :
    ∃ text, Instant.parse? text = some instant := by
  unfold timeOf at hread
  split at hread
  · rename_i text _
    split at hread
    · rename_i hparse
      cases hread
      exact ⟨text, hparse⟩
    · cases hread
  · cases hread

theorem lt_of_countOf {pairs : List (String × String)} {key : MetadataKey} {count : Nat}
    (hread : countOf pairs key = .ok count) : count < Text.countBound := by
  unfold countOf at hread
  split at hread
  · rename_i text _
    cases hparse : Text.parseCount text with
    | error cause => simp [hparse, Except.mapError] at hread
    | ok found =>
        simp only [hparse, Except.mapError, Except.ok.injEq] at hread
        subst hread
        exact Text.lt_of_parseCount hparse
  · cases hread

/-- The time and the count among the facts were read from texts. -/
theorem read_of_ofPairs {pairs : List (String × String)} {metadata : Metadata}
    (hread : ofPairs pairs = .ok metadata) :
    (∃ text, Instant.parse? text = some metadata.createdAt) ∧
      metadata.exactCount < Text.countBound := by
  unfold ofPairs at hread
  cases htime : timeOf pairs .createdAt with
  | error cause => simp [htime, bind, Except.bind] at hread
  | ok created =>
      cases hversion : textOf pairs .version with
      | error cause => simp [htime, hversion, bind, Except.bind] at hread
      | ok version =>
          cases hcount : countOf pairs .exactCount with
          | error cause => simp [htime, hversion, hcount, bind, Except.bind] at hread
          | ok count =>
              simp only [htime, hversion, hcount, bind, Except.bind, pure, Except.pure,
                Except.ok.injEq] at hread
              subst hread
              exact ⟨exists_parse?_of_timeOf htime, lt_of_countOf hcount⟩

end Metadata

/-! ## Rows -/

namespace ExactRow

/-- A written row is read unless its code is empty. -/
theorem toEntry?_ofEntry (entry : EntryKey × RegionCode) :
    toEntry? (ofEntry entry) = if entry.1.code ≠ "" then some entry else none := by
  have hcountry : Country.parse entry.1.country.code = .ok entry.1.country :=
    Country.parse_eq_ok_iff.mpr rfl
  have hregion : RegionCode.parse entry.2.code = .ok entry.2 := RegionCode.parse_eq_ok_iff.mpr rfl
  unfold toEntry? ofEntry
  by_cases hcode : entry.1.code = ""
  · simp [hregion, Except.toOption, hcode]
  · simp [hcountry, hregion, Except.toOption, hcode]

theorem entry_of_ofEntry {entry : EntryKey × RegionCode} (hcode : entry.1.code ≠ "") :
    toEntry? (ofEntry entry) = some entry := by
  rw [toEntry?_ofEntry, if_pos hcode]

theorem code_ne_empty_of_toEntry? {row : ExactRow} {entry : EntryKey × RegionCode}
    (hread : row.toEntry? = some entry) : entry.1.code ≠ "" := by
  unfold toEntry? at hread
  obtain ⟨_, _, hread⟩ := Option.bind_eq_some_iff.mp hread
  obtain ⟨_, _, hread⟩ := Option.bind_eq_some_iff.mp hread
  obtain ⟨code, _, hread⟩ := Option.bind_eq_some_iff.mp hread
  obtain ⟨_, _, hread⟩ := Option.bind_eq_some_iff.mp hread
  obtain ⟨_, _, hread⟩ := Option.bind_eq_some_iff.mp hread
  split at hread
  · cases hread
  · rename_i hcode
    cases hread
    simpa using hcode

end ExactRow

namespace EstimateRow

theorem entry_of_ofEntry {κ : Type} (entry : EntryKey × Estimate κ) :
    toEntry? (ofEntry entry) = some entry := by
  have hcountry : Country.parse entry.1.country.code = .ok entry.1.country :=
    Country.parse_eq_ok_iff.mpr rfl
  unfold toEntry? ofEntry
  simp [hcountry, Except.toOption]

end EstimateRow

namespace Table

variable {β : Type} {table : Table β}

theorem mem_of_mem_toList {entry : EntryKey × β} (hentry : entry ∈ table.toList) :
    entry.1 ∈ table := by
  rw [Std.ExtTreeMap.mem_iff_isSome_getElem?,
    Std.ExtTreeMap.mem_toList_iff_getElem?_eq_some.mp hentry]
  rfl

theorem ofList_toList : Std.ExtTreeMap.ofList table.toList = table := by
  apply Std.ExtTreeMap.ext_getElem?
  intro key
  cases hfound : table[key]? with
  | some value =>
      have hmem := Std.ExtTreeMap.mem_toList_iff_getElem?_eq_some.mpr hfound
      exact Std.ExtTreeMap.getElem?_ofList_of_mem Std.ReflCmp.compare_self
        Std.ExtTreeMap.distinct_keys_toList hmem
  | none =>
      apply Std.ExtTreeMap.getElem?_ofList_of_contains_eq_false
      rw [Std.ExtTreeMap.map_fst_toList_eq_keys]
      simpa using hfound

/-- A table is read back from written entries if each of them is. -/
theorem ofList_filterMap_toList {ρ : Type} {write : EntryKey × β → ρ}
    {read : ρ → Option (EntryKey × β)}
    (hread : ∀ entry ∈ table.toList, read (write entry) = some entry) :
    Std.ExtTreeMap.ofList ((table.toList.map write).filterMap read) = table := by
  rw [List.filterMap_map]
  have hsome : table.toList.filterMap (read ∘ write) = table.toList.filterMap some :=
    List.filterMap_congr hread
  rw [hsome, List.filterMap_some]
  exact ofList_toList

end Table

namespace ExactTable

/-- The entries whose codes are not empty. -/
def withCodes (exact : ExactTable) : ExactTable :=
  exact.filter fun key _ => key.code ≠ ""

theorem toList_withCodes (exact : ExactTable) :
    exact.withCodes.toList = exact.toList.filter fun entry => entry.1.code ≠ "" :=
  Std.ExtTreeMap.toList_filter

theorem mem_withCodes {exact : ExactTable} {key : EntryKey} :
    key ∈ exact.withCodes ↔ key ∈ exact ∧ key.code ≠ "" := by
  unfold withCodes
  rw [Std.ExtTreeMap.mem_filter]
  simp

theorem withCodes_eq_self {exact : ExactTable} (hcodes : ∀ key ∈ exact, key.code ≠ "") :
    exact.withCodes = exact := by
  have hlisted : Std.ExtTreeMap.ofList exact.withCodes.toList = exact.withCodes :=
    Table.ofList_toList
  rw [← hlisted, toList_withCodes, List.filter_eq_self.mpr]
  · exact Table.ofList_toList
  · intro entry hentry
    simpa using hcodes entry.1 (Table.mem_of_mem_toList hentry)

end ExactTable

namespace Database

variable {κ : Type}

theorem pairsOf?_toPairs (metadata : Metadata) :
    pairsOf? (metadata.toPairs.map fun (key, value) => ⟨some key, some value⟩) =
      some metadata.toPairs := rfl

theorem exactOf_toList (exact : ExactTable) :
    exactOf (exact.toList.map ExactRow.ofEntry) = exact.withCodes := by
  have hread : ExactRow.toEntry? ∘ ExactRow.ofEntry =
      Option.guard fun entry => decide (entry.1.code ≠ "") := by
    funext entry
    simp [ExactRow.toEntry?_ofEntry, Option.guard]
  unfold exactOf
  rw [List.filterMap_map, hread, List.filterMap_eq_filter, ← ExactTable.toList_withCodes]
  exact Table.ofList_toList

theorem estimatesOf_toList (estimates : EstimateTable κ) :
    estimatesOf (estimates.toList.map EstimateRow.ofEntry) = estimates := by
  apply Table.ofList_filterMap_toList
  intro entry _
  exact EstimateRow.entry_of_ofEntry entry

end Database

/-! ## Snapshot files -/

theorem DataDirectory.exists_file?_of_content {κ : Type} {directory : DataDirectory κ}
    {path : String} {content : Content κ}
    (hcontent : (directory.file? path).map Prod.fst = some content) :
    ∃ modified, directory.file? path = some (content, modified) := by
  obtain ⟨⟨_, modified⟩, hfile, rfl⟩ := Option.map_eq_some_iff.mp hcontent
  exact ⟨modified, hfile⟩

namespace SnapshotStore

variable {κ : Type} [DatabaseFormat κ] {directory : DataDirectory κ} {path : String}

theorem open?_eq_ok_iff {database : Database κ} :
    open? directory path = .ok database ↔
      ∃ content modified, directory.file? path = some (content, modified) ∧
        content.database? = some database := by
  unfold open?
  cases hfile : directory.file? path with
  | none => simp
  | some found =>
      obtain ⟨content, modified⟩ := found
      cases hdatabase : content.database? with
      | none => simp [hdatabase]
      | some tables => simp [hdatabase]

theorem loadExact_eq_ok_iff {exact : ExactTable} :
    loadExact directory path = .ok exact ↔
      ∃ database rows, open? directory path = .ok database ∧ database.exact = some rows ∧
        Database.exactOf rows = exact := by
  unfold loadExact
  cases open? directory path with
  | error cause => simp [bind, Except.bind]
  | ok database =>
      cases hrows : database.exact with
      | none => simp [hrows, tableOf, bind, Except.bind]
      | some rows => simp [hrows, tableOf, bind, Except.bind, pure, Except.pure]

theorem loadEstimates_eq_ok_iff {estimates : EstimateTable κ} :
    loadEstimates directory path = .ok estimates ↔
      ∃ database rows, open? directory path = .ok database ∧ database.estimates = some rows ∧
        Database.estimatesOf rows = estimates := by
  unfold loadEstimates
  cases open? directory path with
  | error cause => simp [bind, Except.bind]
  | ok database =>
      cases hrows : database.estimates with
      | none => simp [hrows, tableOf, bind, Except.bind]
      | some rows => simp [hrows, tableOf, bind, Except.bind, pure, Except.pure]

/-- Only the content of the file matters to what is read from it. -/
theorem open?_congr {later : DataDirectory κ}
    (hcontent : (later.file? path).map Prod.fst = (directory.file? path).map Prod.fst) :
    open? later path = open? directory path := by
  unfold open?
  cases hlater : later.file? path with
  | none =>
      cases hfile : directory.file? path with
      | none => rfl
      | some found => simp [hlater, hfile] at hcontent
  | some read =>
      cases hfile : directory.file? path with
      | none => simp [hlater, hfile] at hcontent
      | some found =>
          obtain ⟨content, modified⟩ := found
          obtain ⟨contentLater, modifiedLater⟩ := read
          simp only [hlater, hfile, Option.map_some, Option.some.injEq] at hcontent
          rw [hcontent]

theorem readMetadata_congr {later : DataDirectory κ}
    (hcontent : (later.file? path).map Prod.fst = (directory.file? path).map Prod.fst) :
    readMetadata later path = readMetadata directory path := by
  unfold readMetadata
  rw [open?_congr hcontent]

theorem loadExact_congr {later : DataDirectory κ}
    (hcontent : (later.file? path).map Prod.fst = (directory.file? path).map Prod.fst) :
    loadExact later path = loadExact directory path := by
  unfold loadExact
  rw [open?_congr hcontent]

theorem read_of_readMetadata {metadata : Metadata}
    (hread : readMetadata directory path = .ok metadata) :
    (∃ text, Instant.parse? text = some metadata.createdAt) ∧
      metadata.exactCount < Text.countBound := by
  have hpairs : ∃ pairs, Metadata.ofPairs pairs = .ok metadata := by
    unfold readMetadata at hread
    cases hopen : open? directory path with
    | error cause => simp [hopen, bind, Except.bind] at hread
    | ok database =>
        cases hrows : database.metadata with
        | none => simp [hopen, hrows, tableOf, bind, Except.bind] at hread
        | some rows =>
            cases hpairs : Database.pairsOf? rows with
            | none => simp [hopen, hrows, hpairs, tableOf, bind, Except.bind] at hread
            | some pairs =>
                refine ⟨pairs, ?_⟩
                simp only [hopen, hrows, hpairs, tableOf, bind, Except.bind] at hread
                cases hfacts : Metadata.ofPairs pairs with
                | error cause => simp [hfacts, Except.mapError] at hread
                | ok facts => simpa [hfacts, Except.mapError] using hread
  obtain ⟨pairs, hpairs⟩ := hpairs
  exact Metadata.read_of_ofPairs hpairs

theorem code_ne_empty_of_loadExact {exact : ExactTable}
    (hload : loadExact directory path = .ok exact) : ∀ key ∈ exact, key.code ≠ "" := by
  obtain ⟨_, rows, _, _, rfl⟩ := loadExact_eq_ok_iff.mp hload
  intro key hkey
  unfold Database.exactOf at hkey
  rw [Std.ExtTreeMap.mem_ofList, List.contains_iff_mem] at hkey
  obtain ⟨entry, hentry, rfl⟩ := List.mem_map.mp hkey
  obtain ⟨row, _, hread⟩ := List.mem_filterMap.mp hentry
  exact ExactRow.code_ne_empty_of_toEntry? hread

variable {snapshot : Snapshot κ} {metadata : Metadata} {modified : Instant}

theorem open?_of_file? {database : Database κ}
    (hfile : directory.file? path = some (.database database, modified)) :
    open? directory path = .ok database := by
  unfold open?
  rw [hfile]
  rfl

theorem loadExact_eq_withCodes
    (hfile : directory.file? path = some (.database (.ofSnapshot snapshot metadata), modified)) :
    loadExact directory path = .ok snapshot.exact.withCodes := by
  unfold loadExact
  rw [open?_of_file? hfile]
  exact congrArg Except.ok (Database.exactOf_toList snapshot.exact)

theorem loadExact_of_file?
    (hfile : directory.file? path = some (.database (.ofSnapshot snapshot metadata), modified))
    (hcodes : ∀ key ∈ snapshot.exact, key.code ≠ "") :
    loadExact directory path = .ok snapshot.exact := by
  rw [loadExact_eq_withCodes hfile, ExactTable.withCodes_eq_self hcodes]

theorem loadEstimates_of_file?
    (hfile : directory.file? path = some (.database (.ofSnapshot snapshot metadata), modified)) :
    loadEstimates directory path = .ok snapshot.estimates := by
  unfold loadEstimates
  rw [open?_of_file? hfile]
  exact congrArg Except.ok (Database.estimatesOf_toList snapshot.estimates)

theorem readMetadata_eq_ok_iff
    (hfile : directory.file? path = some (.database (.ofSnapshot snapshot metadata), modified))
    {found : Metadata} :
    readMetadata directory path = .ok found ↔
      ∃ created, Instant.parse? metadata.createdAt.written = some created ∧
        metadata.exactCount < Text.countBound ∧ found = metadata.readBack created := by
  have hread : readMetadata directory path =
      (Metadata.ofPairs metadata.toPairs).mapError .metadata := by
    unfold readMetadata
    rw [open?_of_file? hfile]
    simp only [Database.ofSnapshot, tableOf, bind, Except.bind, Database.pairsOf?_toPairs]
  rw [hread, ← Metadata.ofPairs_toPairs_eq_ok_iff]
  cases Metadata.ofPairs metadata.toPairs <;> simp [Except.mapError]

theorem withEstimates_eq_ok_iff {estimates : EstimateTable κ} :
    withEstimates directory path estimates = .ok (snapshot, metadata) ↔
      ∃ facts, readMetadata directory path = .ok facts ∧
        loadExact directory path = .ok snapshot.exact ∧
        snapshot.estimates = estimates.without snapshot.exact ∧
        metadata = { facts with estimateCount := snapshot.estimates.size } := by
  obtain ⟨exact, kept⟩ := snapshot
  unfold withEstimates
  cases hread : readMetadata directory path with
  | error cause => simp [bind, Except.bind]
  | ok facts =>
      cases hload : loadExact directory path with
      | error cause => simp [bind, Except.bind]
      | ok found =>
          simp only [bind, Except.bind, pure, Except.pure, Except.ok.injEq, Prod.mk.injEq,
            Snapshot.mk.injEq]
          constructor
          · rintro ⟨⟨rfl, rfl⟩, rfl⟩
            exact ⟨facts, rfl, rfl, rfl, rfl⟩
          · rintro ⟨_, rfl, rfl, rfl, rfl⟩
            exact ⟨⟨rfl, rfl⟩, rfl⟩

end SnapshotStore

end PostalRegions
