import PostalRegions.Lookup.Tables
import PostalRegions.Proofs.Confidence.UnitRange
import PostalRegions.Proofs.Lookup.Neighbours
import PostalRegions.Proofs.Lookup.Plurality

/-!
# The confidences of answers

An exact answer is certain, an estimate answers with its own confidences, and the votes behind an
approximation decide both its codes and how far it is to be trusted.
-/

namespace PostalRegions

theorem Confidences.inUnitRange_iff {confidences : Confidences Rat} :
    confidences.inUnitRange = true ↔
      ∀ level, 0 ≤ confidences.atLevel level ∧ confidences.atLevel level ≤ 1 := by
  unfold inUnitRange
  rw [List.all_eq_true]
  simp only [Confidence.inUnitRange_iff]
  constructor
  · intro hall level
    have hlevel : level ∈ Level.all := by cases level <;> decide
    exact hall level hlevel
  · intro hall level _
    exact hall level

theorem Confidences.atLevel_full (level : Level) :
    (Confidences.full : Confidences Rat).atLevel level = 1 := by
  cases level <;> exact Confidence.one_eq

namespace RegionMatch

def codeAt {κ : Type} (answer : RegionMatch κ) : Level → String
  | .one => answer.level1
  | .two => answer.level2
  | .three => answer.level3

/-- What the codes and the confidences of an answer are founded on. -/
structure IsFounded (answer : RegionMatch Rat) (tables : LookupTables Rat) (floor : Rat)
    (key : EntryKey) : Prop where
  inUnitRange : ∀ level, 0 ≤ answer.confidences.atLevel level ∧
    answer.confidences.atLevel level ≤ 1
  certain : answer.kind = .exact → ∀ level, answer.confidences.atLevel level = 1
  aboveFloor : answer.kind = .approximate → floor ≤ answer.confidences.level1
  /-- Each code is the truncation of the region of some entry that goes on after the part of the
  key that was matched. -/
  neighbours : answer.kind = .approximate →
    ∃ found, tables.index.neighbours? key = some found ∧
      ∀ level, ∃ (other : EntryKey) (region : RegionCode), tables.exact[other]? = some region ∧
        other.GoesOnAfter key found.matched ∧ answer.codeAt level = region.atLevel level

end RegionMatch

/-! ## Approximations -/

theorem mem_of_plurality {α : Type} [BEq α] [LawfulBEq α] {votes : List α} {winner : α}
    {count : Nat} (hplurality : plurality votes = some (winner, count)) :
    winner ∈ votes ∧ count ≤ votes.length := by
  obtain ⟨hleads, rfl⟩ := plurality_eq_some_iff.mp hplurality
  exact ⟨hleads.voted, List.count_le_length⟩

theorem votes_of_verdict? {κ : Type} [Confidence κ] {caps : Confidences κ}
    {neighbours : Neighbours} {length : Nat} {level : Level} {verdict : Verdict κ}
    (hverdict : verdict? caps neighbours length level = some verdict) :
    (∃ count ≤ neighbours.votes.length,
      verdict.confidence = voteConfidence (caps.atLevel level) count neighbours.votes.length
        neighbours.matched length) ∧
      ∃ region ∈ neighbours.votes, verdict.code = region.atLevel level := by
  obtain ⟨⟨code, count⟩, hplurality, rfl⟩ := Option.map_eq_some_iff.mp hverdict
  obtain ⟨hcode, hcount⟩ := mem_of_plurality hplurality
  rw [List.length_map] at hcount
  obtain ⟨region, hregion, hsame⟩ := List.mem_map.mp hcode
  exact ⟨⟨count, hcount, rfl⟩, region, hregion, hsame.symm⟩

theorem founded_of_verdict? {caps : Confidences Rat} {neighbours : Neighbours} {length : Nat}
    {level : Level} {verdict : Verdict Rat} (hcaps : caps.inUnitRange = true)
    (hmatched : neighbours.matched ≤ length)
    (hverdict : verdict? caps neighbours length level = some verdict) :
    (0 ≤ verdict.confidence ∧ verdict.confidence ≤ 1) ∧
      ∃ region ∈ neighbours.votes, verdict.code = region.atLevel level := by
  obtain ⟨⟨count, hcount, hconfidence⟩, hregion⟩ := votes_of_verdict? hverdict
  refine ⟨?_, hregion⟩
  have hcap : Confidence.inUnitRange (caps.atLevel level) = true :=
    Confidence.inUnitRange_iff.mpr (Confidences.inUnitRange_iff.mp hcaps level)
  rw [hconfidence]
  exact Confidence.inUnitRange_iff.mp
    (Confidence.inUnitRange_voteConfidence hcap hcount hmatched)

theorem verdicts_of_approximate? {κ : Type} [Confidence κ] {policy : ApproximationPolicy κ}
    {neighbours : Neighbours} {length : Nat} {approximation : Approximation κ}
    (happroximate : approximate? policy neighbours length = some approximation) :
    verdict? policy.caps neighbours length .one = some approximation.level1 ∧
      verdict? policy.caps neighbours length .two = some approximation.level2 ∧
      verdict? policy.caps neighbours length .three = some approximation.level3 ∧
      Confidence.isBelow approximation.level1.confidence policy.floor = false := by
  unfold approximate? at happroximate
  split at happroximate
  · cases happroximate
  · obtain ⟨level1, hlevel1, hrest⟩ := Option.bind_eq_some_iff.mp happroximate
    split at hrest
    · cases hrest
    · rename_i hfloor
      obtain ⟨level2, hlevel2, hrest⟩ := Option.bind_eq_some_iff.mp hrest
      obtain ⟨level3, hlevel3, hrest⟩ := Option.bind_eq_some_iff.mp hrest
      cases hrest
      exact ⟨hlevel1, hlevel2, hlevel3, by simpa using hfloor⟩

theorem PrefixIndex.of_neighbours?_ofTable {exact : ExactTable} {key : EntryKey}
    {found : Neighbours} (hfound : (ofTable exact).neighbours? key = some found) :
    found.matched ≤ key.length ∧ ∀ region ∈ found.votes,
      ∃ other : EntryKey, exact[other]? = some region ∧ other.GoesOnAfter key found.matched := by
  rw [neighbours?_ofTable] at hfound
  obtain ⟨matched, hshared, rfl⟩ := Option.map_eq_some_iff.mp hfound
  have hrange : matched ∈ List.range' 1 key.length :=
    (List.mem_filter.mp (List.max?_eq_some_iff.mp hshared).1).1
  constructor
  · have hbounds := List.mem_range'_1.mp hrange
    simp only
    omega
  · intro region hregion
    obtain ⟨⟨other, region⟩, hentry, rfl⟩ := List.mem_map.mp hregion
    obtain ⟨hlisted, hgoesOn⟩ := List.mem_filter.mp hentry
    exact ⟨other, Std.ExtTreeMap.mem_toList_iff_getElem?_eq_some.mp hlisted,
      of_decide_eq_true hgoesOn⟩

/-! ## Answers -/

namespace LookupTables

variable {tables : LookupTables Rat} {key : EntryKey}

theorem isFounded_ofApproximation {found : Neighbours} {approximation : Approximation Rat}
    (hcaps : tables.policy.caps.inUnitRange = true)
    (hfound : tables.index.neighbours? key = some found)
    (happroximate : approximate? tables.policy found key.length = some approximation) :
    (RegionMatch.ofApproximation approximation).IsFounded tables tables.policy.floor key := by
  obtain ⟨hlevel1, hlevel2, hlevel3, hfloor⟩ := verdicts_of_approximate? happroximate
  have hneighbours : (PrefixIndex.ofTable tables.exact).neighbours? key = some found := by
    rw [← tables.index_eq]
    exact hfound
  obtain ⟨hmatched, hvotes⟩ := PrefixIndex.of_neighbours?_ofTable hneighbours
  have hverdict (level : Level) (verdict : Verdict Rat)
      (hverdict : verdict? tables.policy.caps found key.length level = some verdict) :=
    founded_of_verdict? hcaps hmatched hverdict
  constructor
  · intro level
    cases level with
    | one => exact (hverdict .one _ hlevel1).1
    | two => exact (hverdict .two _ hlevel2).1
    | three => exact (hverdict .three _ hlevel3).1
  · intro hkind
    cases hkind
  · intro _
    have hnotBelow : ¬ approximation.level1.confidence < tables.policy.floor := by
      rw [← Confidence.isBelow_iff, hfloor]
      decide
    exact not_lt.mp hnotBelow
  · intro _
    refine ⟨found, hfound, ?_⟩
    have hcode (level : Level) (verdict : Verdict Rat)
        (hsome : verdict? tables.policy.caps found key.length level = some verdict) :
        ∃ (other : EntryKey) (region : RegionCode), tables.exact[other]? = some region ∧
          other.GoesOnAfter key found.matched ∧ verdict.code = region.atLevel level := by
      obtain ⟨region, hregion, hcode⟩ := (hverdict level verdict hsome).2
      obtain ⟨other, hother, hgoesOn⟩ := hvotes region hregion
      exact ⟨other, region, hother, hgoesOn, hcode⟩
    intro level
    cases level with
    | one => exact hcode .one _ hlevel1
    | two => exact hcode .two _ hlevel2
    | three => exact hcode .three _ hlevel3

/-- An answer is founded unless it is an estimate that is not in range. -/
theorem isFounded_of_find? (hcaps : tables.policy.caps.inUnitRange = true)
    {answer : RegionMatch Rat}
    (hfind : tables.find? key = some answer)
    (hestimates : ∀ estimate, tables.estimates[key]? = some estimate →
      answer = .ofEstimate estimate → estimate.confidences.inUnitRange = true) :
    answer.IsFounded tables tables.policy.floor key := by
  rcases find?_cases hfind with ⟨region, _, rfl⟩ | ⟨estimate, hestimate, rfl⟩ |
    ⟨found, approximation, hfound, happroximate, rfl⟩
  · constructor
    · intro level
      have hfull := Confidences.atLevel_full level
      simp [RegionMatch.ofRegion, hfull]
    · intro _ level
      exact Confidences.atLevel_full level
    · intro hkind
      cases hkind
    · intro hkind
      cases hkind
  · constructor
    · exact Confidences.inUnitRange_iff.mp (hestimates estimate hestimate rfl)
    · intro hkind
      cases hkind
    · intro hkind
      cases hkind
    · intro hkind
      cases hkind
  · exact isFounded_ofApproximation hcaps hfound happroximate

theorem find?_ofTables_empty {κ : Type} [Confidence κ] (policy : ApproximationPolicy κ)
    (key : EntryKey) : (ofTables ∅ ∅ policy).find? key = none := by
  have hneighbours : (PrefixIndex.ofTable ∅).neighbours? key = none := by
    rw [PrefixIndex.neighbours?_ofTable]
    simp [ExactTable.sharedLength?, ExactTable.goingOn]
  unfold find? ofTables
  simp [hneighbours]

end LookupTables

end PostalRegions
