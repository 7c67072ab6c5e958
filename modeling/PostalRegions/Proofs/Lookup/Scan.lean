import PostalRegions.Lookup.Tables
import PostalRegions.Proofs.Lookup.Neighbours
import PostalRegions.Proofs.Lookup.Plurality

/-!
# Lookup by scanning

What a lookup answers can be said without an index and without tallies: the neighbours are found
by going through the exact table, and on each level their most frequent code is counted out.  The
lookup gives the same answers.
-/

namespace PostalRegions

namespace Scan

variable {κ : Type} [Confidence κ]

/-- The code of a level that most neighbours have, and its share of them, scaled by the part of the
key that they share. -/
def verdict? (caps : Confidences κ) (neighbours : List RegionCode) (matched length : Nat)
    (level : Level) : Option (Verdict κ) :=
  let codes := neighbours.map fun region => region.atLevel level
  (mostFrequent? codes).map fun code =>
    ⟨code, Confidence.roundHundredths (Confidence.smaller
      (Confidence.times (Confidence.ratio (codes.count code) neighbours.length)
        (Confidence.ratio matched length)) (caps.atLevel level))⟩

def approximate? (exact : ExactTable) (policy : ApproximationPolicy κ) (key : EntryKey) :
    Option (RegionMatch κ) := do
  let matched ← exact.sharedLength? key
  let neighbours := (exact.goingOn key matched).map Prod.snd
  let level1 ← verdict? policy.caps neighbours matched key.length .one
  if Confidence.isBelow level1.confidence policy.floor then none
  else
    let level2 ← verdict? policy.caps neighbours matched key.length .two
    let level3 ← verdict? policy.caps neighbours matched key.length .three
    return ⟨.approximate, level1.code, level2.code, level3.code,
      level1.confidence, level2.confidence, level3.confidence⟩

def find? (exact : ExactTable) (estimates : EstimateTable κ) (policy : ApproximationPolicy κ)
    (key : EntryKey) : Option (RegionMatch κ) :=
  match exact[key]? with
  | some region =>
      some ⟨.exact, region.atLevel .one, region.atLevel .two, region.atLevel .three,
        Confidences.full⟩
  | none =>
    match estimates[key]? with
    | some estimate =>
        some ⟨.estimated, estimate.level1, estimate.level2, estimate.level3,
          estimate.confidences⟩
    | none => approximate? exact policy key

def lookup (exact : ExactTable) (estimates : EstimateTable κ) (policy : ApproximationPolicy κ)
    (country postalCode : String) : Option (RegionMatch κ) :=
  match Country.parseLoose country with
  | .error _ => none
  | .ok parsed =>
      find? exact estimates policy ⟨parsed.provider, postalKey parsed.provider postalCode⟩

theorem verdict?_eq (caps : Confidences κ) (matched length : Nat) (neighbours : List RegionCode)
    (level : Level) :
    PostalRegions.verdict? caps ⟨matched, neighbours⟩ length level =
      verdict? caps neighbours matched length level := by
  unfold PostalRegions.verdict? verdict?
  rw [plurality_eq, Option.map_map]
  rfl

theorem goingOn_of_sharedLength {exact : ExactTable} {key : EntryKey} {matched : Nat}
    (hshared : exact.sharedLength? key = some matched) :
    exact.goingOn key matched ≠ [] ∧ key.length ≠ 0 := by
  have hmember := (List.max?_eq_some_iff.mp hshared).1
  obtain ⟨hrange, hgoingOn⟩ := List.mem_filter.mp hmember
  have hbounds := List.mem_range'_1.mp hrange
  exact ⟨by simpa using hgoingOn, by omega⟩

theorem approximate?_eq (tables : LookupTables κ) (key : EntryKey) :
    (do
      let neighbours ← tables.index.neighbours? key
      let approximation ← PostalRegions.approximate? tables.policy neighbours key.length
      return RegionMatch.ofApproximation approximation) =
      approximate? tables.exact tables.policy key := by
  rw [tables.index_eq, PrefixIndex.neighbours?_ofTable, approximate?]
  cases hshared : tables.exact.sharedLength? key with
  | none => rfl
  | some matched =>
      obtain ⟨hgoingOn, hlength⟩ := goingOn_of_sharedLength hshared
      have hopen : (((tables.exact.goingOn key matched).map Prod.snd).isEmpty ||
          key.length == 0) = false := by
        simp [hgoingOn, hlength]
      simp only [Option.map_some, Option.bind_eq_bind, Option.bind_some,
        PostalRegions.approximate?, hopen, verdict?_eq, Bool.false_eq_true, if_false]
      cases verdict? tables.policy.caps ((tables.exact.goingOn key matched).map Prod.snd) matched
          key.length .one with
      | none => rfl
      | some level1 =>
          simp only [Option.bind_some]
          by_cases hfloor : Confidence.isBelow level1.confidence tables.policy.floor = true
          · rw [if_pos hfloor, if_pos hfloor]
            rfl
          · rw [if_neg hfloor, if_neg hfloor]
            simp only [Option.bind_assoc]
            rfl

theorem find?_eq (tables : LookupTables κ) (key : EntryKey) :
    tables.find? key = find? tables.exact tables.estimates tables.policy key := by
  unfold LookupTables.find? find?
  cases hexact : tables.exact[key]? with
  | some region => rfl
  | none =>
      cases hestimate : tables.estimates[key]? with
      | some estimate => rfl
      | none => exact approximate?_eq tables key

end Scan

/-- A lookup answers what a scan of the tables answers, in whatever order the entries are put into
the index and the tallies of a vote are gone through. -/
theorem LookupTables.lookup_eq_scan {κ : Type} [Confidence κ] (tables : LookupTables κ)
    (country postalCode : String) :
    tables.lookup country postalCode =
        Scan.lookup tables.exact tables.estimates tables.policy country postalCode ∧
      (∀ listing : List (EntryKey × RegionCode), listing.Perm tables.exact.toList →
        PrefixIndex.ofListing listing = tables.index) ∧
      ∀ (votes : List String) (tallied : List (Tally String)), tallied.Perm (tallies votes) →
        Tally.best tallied = Tally.best (tallies votes) := by
  refine ⟨?_, ?_, ?_⟩
  · unfold LookupTables.lookup Scan.lookup EntryKey.ofQuery?
    cases Country.parseLoose country with
    | error cause => rfl
    | ok parsed => exact Scan.find?_eq tables _
  · intro listing hlisting
    rw [tables.index_eq, PrefixIndex.ofListing_eq hlisting]
  · intro votes tallied hperm
    exact Tally.best_perm hperm

end PostalRegions
