import PostalRegions.Proofs.Lookup.Confidences
import PostalRegions.Proofs.Region.Nesting

/-!
# Certainty from level to level

Cutting codes down to a coarser level merges candidates and separates none.  So the winner of a
level has at least as many votes as the winner of a finer one, however far apart the two regions
lie.  If the caps fall from level to level, the confidences do, and an approximation that the
coarsest level lets pass could not have failed on a finer one only.
-/

namespace PostalRegions

/-! ## Merged votes -/

theorem count_le_count_of_merged {α β : Type} [BEq α] [LawfulBEq α] [BEq β] [LawfulBEq β]
    {votes : List α} {merge : α → β} {fine : α} {coarse : β} (hfine : fine ∈ votes)
    (hcoarse : Leads (votes.map merge) coarse) :
    votes.count fine ≤ (votes.map merge).count coarse :=
  calc
    votes.count fine ≤ (votes.map merge).count (merge fine) := List.count_le_count_map
    _ ≤ (votes.map merge).count coarse :=
      hcoarse.most (merge fine) (List.mem_map_of_mem hfine)

theorem count_le_of_plurality {votes : List RegionCode} {coarse fine : Level}
    (hcoarse : coarse.places ≤ fine.places) {coarseWinner fineWinner : String × Nat}
    (hcoarseWinner : plurality (votes.map (·.atLevel coarse)) = some coarseWinner)
    (hfineWinner : plurality (votes.map (·.atLevel fine)) = some fineWinner) :
    fineWinner.2 ≤ coarseWinner.2 := by
  have hmerged : votes.map (·.atLevel coarse) =
      (votes.map (·.atLevel fine)).map coarse.truncate := by
    rw [List.map_map]
    exact List.map_congr_left fun region _ => (region.truncate_atLevel hcoarse).symm
  rw [hmerged] at hcoarseWinner
  obtain ⟨hcoarseLeads, hcoarseCount⟩ := plurality_eq_some_iff.mp hcoarseWinner
  obtain ⟨hfineLeads, hfineCount⟩ := plurality_eq_some_iff.mp hfineWinner
  rw [← hcoarseCount, ← hfineCount]
  exact count_le_count_of_merged hfineLeads.voted hcoarseLeads

theorem exists_winners {votes : List RegionCode} (hvotes : votes ≠ []) :
    ∃ winner : Level → String × Nat,
      ∀ level, plurality (votes.map (·.atLevel level)) = some (winner level) := by
  have hlevel (level : Level) :
      ∃ winner, plurality (votes.map (·.atLevel level)) = some winner := by
    have hcodes : votes.map (·.atLevel level) ≠ [] := by simpa using hvotes
    exact Option.ne_none_iff_exists'.mp fun hnone => hcodes (plurality_eq_none_iff.mp hnone)
  exact Classical.axiomOfChoice hlevel

/-! ## Confidences -/

namespace Confidence

theorem voteConfidence_mono {cap coarserCap : Rat} {count coarserCount : Nat}
    (hcap : cap ≤ coarserCap) (hcount : count ≤ coarserCount) (total matched length : Nat) :
    voteConfidence cap count total matched length ≤
      voteConfidence coarserCap coarserCount total matched length := by
  have hproduct : times (ratio count total : Rat) (ratio matched length) ≤
      times (ratio coarserCount total) (ratio matched length) := by
    change (ratio count total : Rat) * ratio matched length ≤
      ratio coarserCount total * ratio matched length
    simp only [ratio_eq_div]
    gcongr
  unfold voteConfidence
  rw [smaller_eq_min, smaller_eq_min]
  exact roundHundredths_mono (min_le_min hproduct hcap)

end Confidence

/-- No level has more than a coarser one. -/
def Confidences.FallByLevel (confidences : Confidences Rat) : Prop :=
  confidences.level3 ≤ confidences.level2 ∧ confidences.level2 ≤ confidences.level1

instance (confidences : Confidences Rat) : Decidable confidences.FallByLevel :=
  inferInstanceAs (Decidable (_ ∧ _))

theorem Confidences.FallByLevel.atLevel_le {confidences : Confidences Rat}
    (hfall : confidences.FallByLevel) {coarse fine : Level}
    (hcoarse : coarse.places ≤ fine.places) :
    confidences.atLevel fine ≤ confidences.atLevel coarse := by
  obtain ⟨hthree, htwo⟩ := hfall
  cases coarse with
  | one =>
      cases fine with
      | one => exact le_rfl
      | two => exact htwo
      | three => exact hthree.trans htwo
  | two =>
      cases fine with
      | one => exact absurd hcoarse (by decide)
      | two => exact le_rfl
      | three => exact hthree
  | three =>
      cases fine with
      | three => exact le_rfl
      | _ => exact absurd hcoarse (by decide)

theorem verdict?_of_plurality {κ : Type} [Confidence κ] {neighbours : Neighbours} {level : Level}
    {winner : String × Nat}
    (hwinner : plurality (neighbours.votes.map (·.atLevel level)) = some winner)
    (caps : Confidences κ) (length : Nat) :
    verdict? caps neighbours length level =
      some ⟨winner.1, voteConfidence (caps.atLevel level) winner.2 neighbours.votes.length
        neighbours.matched length⟩ := by
  unfold verdict?
  rw [hwinner, Option.map_some]

theorem confidence_le_of_verdict? {caps : Confidences Rat} (hcaps : caps.FallByLevel)
    {neighbours : Neighbours} {length : Nat} {coarse fine : Level}
    (hcoarse : coarse.places ≤ fine.places) {coarseVerdict fineVerdict : Verdict Rat}
    (hcoarseVerdict : verdict? caps neighbours length coarse = some coarseVerdict)
    (hfineVerdict : verdict? caps neighbours length fine = some fineVerdict) :
    fineVerdict.confidence ≤ coarseVerdict.confidence := by
  obtain ⟨coarseWinner, hcoarseWinner, rfl⟩ := Option.map_eq_some_iff.mp hcoarseVerdict
  obtain ⟨fineWinner, hfineWinner, rfl⟩ := Option.map_eq_some_iff.mp hfineVerdict
  exact Confidence.voteConfidence_mono (hcaps.atLevel_le hcoarse)
    (count_le_of_plurality hcoarse hcoarseWinner hfineWinner) _ _ _

/-! ## Approximations -/

variable {votes : List RegionCode} {winner : Level → String × Nat}

/-- There is an approximation exactly if the coarsest level reaches the floor. -/
theorem isSome_approximate?_iff (hvotes : votes ≠ [])
    (hwinner : ∀ level, plurality (votes.map (·.atLevel level)) = some (winner level))
    (policy : ApproximationPolicy Rat) (matched : Nat) {length : Nat} (hlength : 0 < length) :
    (approximate? policy ⟨matched, votes⟩ length).isSome = true ↔
      policy.floor ≤
        voteConfidence policy.caps.level1 (winner .one).2 votes.length matched length := by
  have hverdict (level : Level) :
      verdict? policy.caps ⟨matched, votes⟩ length level =
        some ⟨(winner level).1, voteConfidence (policy.caps.atLevel level) (winner level).2
          votes.length matched length⟩ :=
    verdict?_of_plurality (hwinner level) policy.caps length
  have hguard : (votes.isEmpty || length == 0) = false := by
    simp [hvotes, hlength.ne']
  unfold approximate?
  simp only [hguard, hverdict, Bool.false_eq_true, if_false, Option.bind_eq_bind,
    Option.bind_some, Confidences.atLevel]
  split
  · rename_i hbelow
    exact iff_of_false (by simp) (not_le.mpr (Confidence.isBelow_iff.mp hbelow))
  · rename_i habove
    exact iff_of_true rfl (not_lt.mp (mt Confidence.isBelow_iff.mpr habove))

/-- The winner of a level has at least as many votes as that of a finer level.  If the caps fall
from level to level, the confidences do, and an approximation is given exactly if the coarsest level
reaches the floor, which is the case as soon as any level does. -/
theorem approximation_fallsByLevel (hvotes : votes ≠ []) :
    ∃ winner : Level → String × Nat,
      (∀ level, plurality (votes.map (·.atLevel level)) = some (winner level)) ∧
      (winner .three).2 ≤ (winner .two).2 ∧ (winner .two).2 ≤ (winner .one).2 ∧
      ∀ (policy : ApproximationPolicy Rat) (matched length : Nat), policy.caps.FallByLevel →
        (∀ approximation, approximate? policy ⟨matched, votes⟩ length = some approximation →
          approximation.level3.confidence ≤ approximation.level2.confidence ∧
            approximation.level2.confidence ≤ approximation.level1.confidence) ∧
        (0 < length →
          ((approximate? policy ⟨matched, votes⟩ length).isSome = true ↔
            policy.floor ≤
              voteConfidence policy.caps.level1 (winner .one).2 votes.length matched length) ∧
          ((approximate? policy ⟨matched, votes⟩ length).isSome = true ↔
            ∃ level, policy.floor ≤ voteConfidence (policy.caps.atLevel level) (winner level).2
              votes.length matched length)) := by
  obtain ⟨winner, hwinner⟩ := exists_winners hvotes
  have hcount {coarse fine : Level} (hcoarse : coarse.places ≤ fine.places) :
      (winner fine).2 ≤ (winner coarse).2 :=
    count_le_of_plurality hcoarse (hwinner coarse) (hwinner fine)
  refine ⟨winner, hwinner, hcount (by decide), hcount (by decide), ?_⟩
  intro policy matched length hcaps
  constructor
  · intro approximation happroximate
    obtain ⟨hlevel1, hlevel2, hlevel3, _⟩ := verdicts_of_approximate? happroximate
    exact ⟨confidence_le_of_verdict? hcaps (by decide) hlevel2 hlevel3,
      confidence_le_of_verdict? hcaps (by decide) hlevel1 hlevel2⟩
  · intro hlength
    have hsome := isSome_approximate?_iff hvotes hwinner policy matched hlength
    refine ⟨hsome, hsome.trans ⟨fun hfloor => ⟨.one, hfloor⟩, ?_⟩⟩
    rintro ⟨level, hfloor⟩
    have hcoarse : Level.one.places ≤ level.places := by cases level <;> decide
    exact hfloor.trans (Confidence.voteConfidence_mono (hcaps.atLevel_le hcoarse)
      (hcount hcoarse) _ _ _)

/-- Votes whose winners lie apart: four agree on the coarsest level only, two on every level. -/
def dividedVotes : List RegionCode :=
  [⟨"AT111", by decide⟩, ⟨"AT121", by decide⟩, ⟨"AT1", by decide⟩, ⟨"AT13", by decide⟩,
    ⟨"AT211", by decide⟩, ⟨"AT211", by decide⟩]

theorem dividedVotes_fallByLevel :
    dividedVotes ≠ [] ∧
      (ApproximationPolicy.standard : ApproximationPolicy Rat).caps.FallByLevel ∧
      ∃ approximation : Approximation Rat,
        approximate? .standard ⟨4, dividedVotes⟩ 5 = some approximation ∧
          approximation.level1.code = "AT1" ∧ approximation.level2.code = "AT21" ∧
          approximation.level3.confidence ≤ approximation.level2.confidence ∧
          approximation.level2.confidence ≤ approximation.level1.confidence := by
  have hvotes : dividedVotes ≠ [] := by decide
  have hcaps : (ApproximationPolicy.standard : ApproximationPolicy Rat).caps.FallByLevel := by
    decide +kernel
  have happroximate : approximate? .standard ⟨4, dividedVotes⟩ 5 =
      some (⟨⟨"AT1", 53 / 100⟩, ⟨"AT21", 27 / 100⟩, ⟨"AT211", 27 / 100⟩⟩ : Approximation Rat) := by
    decide +kernel
  obtain ⟨_, _, _, _, hpolicies⟩ := approximation_fallsByLevel hvotes
  exact ⟨hvotes, hcaps, _, happroximate, rfl, rfl,
    (hpolicies .standard 4 5 hcaps).1 _ happroximate⟩

end PostalRegions
