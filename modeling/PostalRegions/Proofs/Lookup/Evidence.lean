import Mathlib.Tactic.Linarith
import PostalRegions.Proofs.Lookup.Confidences
import PostalRegions.Proofs.Postal.Canonical

/-!
# The evidence behind an approximation

The floor lets an approximation through only if its neighbours share enough of the key.  What they
share is counted on the whole key, a text that the format puts in front of every code included.  So
the shared part goes beyond that text, except for short keys in Latvia, where the text alone can be
enough.
-/

namespace PostalRegions

/-! ## Texts in front of codes -/

/-- The text that a country's format puts in front of its codes; most formats have none. -/
def keyLead (country : Country) : String :=
  match (PostalFormat.of? country).bind (·.transform) with
  | some (.prepend lead) => lead
  | _ => ""

namespace PostalFormat

theorem registry_prepends_latvia :
    registry.all (fun entry => match entry.2.transform with
      | some (.prepend lead) => entry.1 == "LV" && lead == "LV"
      | _ => true) = true := by
  decide

end PostalFormat

theorem keyLead_eq (country : Country) :
    keyLead country = "" ∨ (country.code = "LV" ∧ keyLead country = "LV") := by
  unfold keyLead
  split
  · rename_i lead htransform
    obtain ⟨format, hformat, hprepend⟩ := Option.bind_eq_some_iff.mp htransform
    have hentry := List.all_eq_true.mp PostalFormat.registry_prepends_latvia _
      (PostalFormat.mem_registry_of_of? hformat)
    rw [hprepend, Bool.and_eq_true, beq_iff_eq, beq_iff_eq] at hentry
    exact Or.inr hentry
  · exact Or.inl rfl

/-! ## Shared parts of keys -/

/-- Another key of the same country has the same first characters, so many of them. -/
def EntryKey.SharesLeading (other key : EntryKey) (length : Nat) : Prop :=
  other.country = key.country ∧ length ≤ key.length ∧
    key.code.toList.take length <+: other.code.toList

/-- Some entry of a table shares the first characters of a key, so many of them. -/
def ExactTable.SharesLeading (exact : ExactTable) (key : EntryKey) (length : Nat) : Prop :=
  ∃ (other : EntryKey) (region : RegionCode), exact[other]? = some region ∧
    other.SharesLeading key length

theorem EntryKey.GoesOnAfter.sharesLeading {other key : EntryKey} {length : Nat}
    (hgoesOn : other.GoesOnAfter key length) (hlength : length ≤ key.length) :
    other.SharesLeading key length :=
  ⟨hgoesOn.1, hlength, hgoesOn.2.2⟩

/-! ## Coverage -/

namespace Confidence

theorem voteConfidence_le_coverage {cap : Rat} {count total matched length : Nat}
    (hcap : 0 ≤ cap) (hcount : count ≤ total) :
    voteConfidence cap count total matched length ≤ (matched : Rat) / length + 1 / 200 := by
  obtain ⟨hshareNonneg, hshare⟩ := inUnitRange_iff.mp (inUnitRange_ratio hcount)
  have hratio : 0 ≤ (ratio matched length : Rat) := by
    rw [ratio_eq_div]
    positivity
  have hproduct : times (ratio count total : Rat) (ratio matched length) ≤ matched / length :=
    calc
      times (ratio count total : Rat) (ratio matched length) =
          ratio count total * ratio matched length := rfl
      _ ≤ 1 * ratio matched length := mul_le_mul_of_nonneg_right hshare hratio
      _ = matched / length := by rw [one_mul, ratio_eq_div]
  have hnonneg : 0 ≤ times (ratio count total : Rat) (ratio matched length) :=
    mul_nonneg hshareNonneg hratio
  unfold voteConfidence
  rw [smaller_eq_min]
  exact (roundHundredths_le_add (le_min hnonneg hcap)).trans
    (add_le_add_left ((min_le_left _ _).trans hproduct) _)

end Confidence

/-- The neighbours of an approximation share so much of the key that the floor is reached. -/
theorem floor_le_coverage {policy : ApproximationPolicy Rat} {neighbours : Neighbours}
    {length : Nat} {approximation : Approximation Rat} (hcap : 0 ≤ policy.caps.level1)
    (happroximate : approximate? policy neighbours length = some approximation) :
    policy.floor ≤ (neighbours.matched : Rat) / length + 1 / 200 := by
  obtain ⟨hlevel1, _, _, hfloor⟩ := verdicts_of_approximate? happroximate
  obtain ⟨⟨count, hcount, hconfidence⟩, _⟩ := votes_of_verdict? hlevel1
  rw [Bool.eq_false_iff, ne_eq, Confidence.isBelow_iff, not_lt, hconfidence] at hfloor
  exact hfloor.trans (Confidence.voteConfidence_le_coverage hcap hcount)

/-- The standard floor asks for 59 in 200 characters, so for one at least. -/
theorem coverage_of_standard {neighbours : Neighbours} {length : Nat}
    {approximation : Approximation Rat}
    (happroximate : approximate? .standard neighbours length = some approximation) :
    0 < neighbours.matched ∧ 59 * length ≤ 200 * neighbours.matched := by
  have hcap : 0 ≤ (ApproximationPolicy.standard : ApproximationPolicy Rat).caps.level1 := by
    decide +kernel
  have hstandard : (ApproximationPolicy.standard : ApproximationPolicy Rat).floor = 3 / 10 := by
    decide +kernel
  have hfloor := floor_le_coverage hcap happroximate
  rw [hstandard] at hfloor
  have hcoverage : (59 / 200 : Rat) ≤ neighbours.matched / length := by linarith
  have hmatched : neighbours.matched ≠ 0 := by
    intro hnone
    rw [hnone, Nat.cast_zero, zero_div] at hcoverage
    norm_num at hcoverage
  refine ⟨Nat.pos_of_ne_zero hmatched, ?_⟩
  rcases Nat.eq_zero_or_pos length with rfl | hlength
  · exact Nat.zero_le _
  · have hpositive : (0 : Rat) < length := by exact_mod_cast hlength
    rw [le_div_iff₀ hpositive] at hcoverage
    have hproduct : (59 * length : Rat) ≤ 200 * neighbours.matched := by linarith
    exact_mod_cast hproduct

/-! ## Answers -/

/-- Behind an approximate answer there is an exact entry of the country that shares the first part
of the key, 59 in 200 of its characters at least.  The shared part is longer than the text in front
of the country's codes, unless the country is Latvia and the key at most three times as long. -/
theorem LookupTables.evidence_of_lookup {exact : ExactTable} {estimates : EstimateTable Rat}
    {country postalCode : String} {answer : RegionMatch Rat}
    (hlookup : (ofTables exact estimates .standard).lookup country postalCode = some answer)
    (hkind : answer.kind = .approximate) :
    ∃ key matched, EntryKey.ofQuery? country postalCode = some key ∧
      exact.SharesLeading key matched ∧ 0 < matched ∧ 59 * key.length ≤ 200 * matched ∧
      ((keyLead key.country).length < matched ∨
        key.country.code = "LV" ∧ matched ≤ 2 ∧ key.length ≤ 3 * matched) := by
  obtain ⟨key, hkey, hfind⟩ := Option.bind_eq_some_iff.mp hlookup
  rcases find?_cases hfind with ⟨region, _, rfl⟩ | ⟨estimate, _, rfl⟩ |
    ⟨found, approximation, hfound, happroximate, rfl⟩
  · cases hkind
  · cases hkind
  · obtain ⟨hpositive, hcoverage⟩ := coverage_of_standard happroximate
    obtain ⟨hmatched, hvotes⟩ := PrefixIndex.of_neighbours?_ofTable hfound
    obtain ⟨hlevel1, _⟩ := verdicts_of_approximate? happroximate
    obtain ⟨_, region, hregion, _⟩ := votes_of_verdict? hlevel1
    obtain ⟨other, hother, hgoesOn⟩ := hvotes region hregion
    refine ⟨key, found.matched, hkey, ⟨other, region, hother, hgoesOn.sharesLeading hmatched⟩,
      hpositive, hcoverage, ?_⟩
    rcases keyLead_eq key.country with hnone | ⟨hlatvia, hlead⟩
    · rw [hnone]
      exact Or.inl hpositive
    · rw [hlead]
      by_cases hlonger : 2 < found.matched
      · exact Or.inl hlonger
      · exact Or.inr ⟨hlatvia, by omega, by omega⟩

/-- One code of Riga. -/
def rigaTable : ExactTable :=
  (∅ : ExactTable).insert (EntryKey.ofPostalCode ⟨"LV", by decide⟩ "LV-1050")
    ⟨"LV006", by decide⟩

/-- A longer text has to share some of the code itself. -/
theorem rigaTable_answers_with_evidence :
    ∃ answer key, (LookupTables.ofTables rigaTable (∅ : EstimateTable Rat) .standard).lookup
        "LV" "LV 1051 123" = some answer ∧ answer.kind = .approximate ∧
      EntryKey.ofQuery? "LV" "LV 1051 123" = some key ∧
      ∃ matched, rigaTable.SharesLeading key matched ∧ (keyLead key.country).length < matched := by
  have hanswer : (LookupTables.ofTables rigaTable (∅ : EstimateTable Rat) .standard).lookup
      "LV" "LV 1051 123" =
        some ⟨.approximate, "LV0", "LV00", "LV006", ⟨14 / 25, 14 / 25, 14 / 25⟩⟩ := by
    decide +kernel
  have hquery : EntryKey.ofQuery? "LV" "LV 1051 123" = some ⟨⟨"LV", by decide⟩, "LV1051123"⟩ := by
    decide +kernel
  obtain ⟨key, matched, hkey, hshares, _, _, hlonger⟩ :=
    LookupTables.evidence_of_lookup hanswer rfl
  cases hquery.symm.trans hkey
  have hlength : EntryKey.length ⟨⟨"LV", by decide⟩, "LV1051123"⟩ = 9 := by decide
  refine ⟨_, _, hanswer, rfl, hquery, matched, hshares, ?_⟩
  rcases hlonger with hlonger | ⟨_, hshort, hthrice⟩
  · exact hlonger
  · rw [hlength] at hthrice
    omega

/-- Another Latvian code shares nothing with the one of Riga but the text in front of both. -/
theorem rigaTable_answers_without_evidence :
    (∀ key ∈ rigaTable, ∃ raw, key = EntryKey.ofPostalCode key.country raw) ∧
      ∃ answer key, (LookupTables.ofTables rigaTable (∅ : EstimateTable Rat) .standard).lookup
          "LV" "LV-9999" = some answer ∧ answer.kind = .approximate ∧
        EntryKey.ofQuery? "LV" "LV-9999" = some key ∧
        ¬ ∃ matched, rigaTable.SharesLeading key matched ∧
          (keyLead key.country).length < matched := by
  have hanswer : (LookupTables.ofTables rigaTable (∅ : EstimateTable Rat) .standard).lookup
      "LV" "LV-9999" =
        some ⟨.approximate, "LV0", "LV00", "LV006", ⟨33 / 100, 33 / 100, 33 / 100⟩⟩ := by
    decide +kernel
  have hkey : EntryKey.ofQuery? "LV" "LV-9999" = some ⟨⟨"LV", by decide⟩, "LV9999"⟩ := by
    decide +kernel
  have hriga : EntryKey.ofPostalCode ⟨"LV", by decide⟩ "LV-1050" =
      ⟨⟨"LV", by decide⟩, "LV1050"⟩ := by decide +kernel
  have hlead : keyLead ⟨"LV", by decide⟩ = "LV" := by decide +kernel
  constructor
  · intro key hmem
    rw [rigaTable, Std.ExtTreeMap.mem_insert] at hmem
    rcases hmem with hsame | hnone
    · rw [← Std.compare_eq_iff_eq.mp hsame]
      exact ⟨_, rfl⟩
    · exact absurd hnone Std.ExtTreeMap.not_mem_empty
  · refine ⟨_, _, hanswer, rfl, hkey, ?_⟩
    rintro ⟨matched, ⟨other, region, hother, _, _, hprefix⟩, hlonger⟩
    rw [hlead] at hlonger
    have hsame : other = ⟨⟨"LV", by decide⟩, "LV1050"⟩ := by
      rw [rigaTable, Std.ExtTreeMap.getElem?_insert] at hother
      split at hother
      · rename_i hcompare
        rw [← Std.compare_eq_iff_eq.mp hcompare, hriga]
      · rw [Std.ExtTreeMap.getElem?_empty] at hother
        cases hother
    have hthree : "LV9999".toList.take 3 <+: other.code.toList :=
      (List.take_prefix_take_left hlonger).trans hprefix
    rw [hsame] at hthree
    exact absurd hthree (by decide)

end PostalRegions
