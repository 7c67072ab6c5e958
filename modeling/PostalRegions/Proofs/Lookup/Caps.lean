import PostalRegions.Configuration.Loading
import PostalRegions.Proofs.Dataset.Confidences

/-!
# Caps of approximations

A confidence is capped first and rounded to hundredths afterwards.  A cap that is rounded down, or
is a whole number of hundredths, is therefore an upper bound of all confidences of its level.  A cap
that is rounded up is exceeded, by half a hundredth at most, as soon as the neighbours agree.
-/

namespace PostalRegions

/-! ## Rounding a cap -/

namespace Confidence

variable {cap : Rat}

theorem roundHundredths_le_iff (hcap : 0 ≤ cap) :
    roundHundredths cap ≤ cap ↔ Int.fract (100 * cap) < 1 / 2 := by
  have hsplit : (⌊100 * cap⌋ : Rat) + Int.fract (100 * cap) = 100 * cap := Int.floor_add_fract _
  have hnonneg : 0 ≤ Int.fract (100 * cap) := Int.fract_nonneg _
  have hless : Int.fract (100 * cap) < 1 := Int.fract_lt_one _
  rw [roundHundredths_eq_floor hcap, div_le_iff₀ (by norm_num)]
  by_cases hdown : Int.fract (100 * cap) < 1 / 2
  · have hfloor : ⌊100 * cap + 1 / 2⌋ = ⌊100 * cap⌋ := by
      rw [Int.floor_eq_iff]
      constructor <;> linarith
    rw [hfloor]
    exact iff_of_true (by linarith) hdown
  · have hfloor : ⌊100 * cap + 1 / 2⌋ = ⌊100 * cap⌋ + 1 := by
      rw [Int.floor_eq_iff]
      push_cast
      constructor <;> linarith
    rw [hfloor]
    push_cast
    exact iff_of_false (by linarith) hdown

/-- A confidence rounds the capped product, so it is at most the rounded cap. -/
theorem voteConfidence_le_roundHundredths (hcap : 0 ≤ cap) (count total matched length : Nat) :
    voteConfidence cap count total matched length ≤ roundHundredths cap := by
  have hproduct : 0 ≤ times (ratio count total : Rat) (ratio matched length) := by
    change 0 ≤ (ratio count total : Rat) * ratio matched length
    rw [ratio_eq_div, ratio_eq_div]
    positivity
  unfold voteConfidence
  rw [smaller_eq_min]
  exact roundHundredths_le_roundHundredths (le_min hproduct hcap) (min_le_right _ _)

theorem voteConfidence_of_agreement (hcap : cap ≤ 1) :
    voteConfidence cap 1 1 1 1 = roundHundredths cap := by
  have hproduct : times (ratio 1 1 : Rat) (ratio 1 1) = 1 := by
    change (ratio 1 1 : Rat) * ratio 1 1 = 1
    rw [ratio_eq_div]
    norm_num
  unfold voteConfidence
  rw [smaller_eq_min, hproduct, min_eq_right hcap]

end Confidence

/-! ## Approximations -/

def Approximation.confidenceAt {κ : Type} (approximation : Approximation κ) : Level → κ
  | .one => approximation.level1.confidence
  | .two => approximation.level2.confidence
  | .three => approximation.level3.confidence

open Confidence

namespace ApproximationPolicy

/-- However the neighbours vote and whatever part of a key they share, no approximation has a
confidence above a limit. -/
def LimitsConfidence (policy : ApproximationPolicy Rat) (level : Level) (limit : Rat) : Prop :=
  ∀ (neighbours : Neighbours) (length : Nat) (approximation : Approximation Rat),
    neighbours.matched ≤ length → approximate? policy neighbours length = some approximation →
      approximation.confidenceAt level ≤ limit

variable {policy : ApproximationPolicy Rat}

theorem confidenceAt_le_roundHundredths {neighbours : Neighbours} {length : Nat}
    {approximation : Approximation Rat} (hcaps : policy.caps.inUnitRange = true)
    (happroximate : approximate? policy neighbours length = some approximation) (level : Level) :
    approximation.confidenceAt level ≤ roundHundredths (policy.caps.atLevel level) := by
  obtain ⟨hlevel1, hlevel2, hlevel3, _⟩ := verdicts_of_approximate? happroximate
  have hverdict {level : Level} {verdict : Verdict Rat}
      (hsome : verdict? policy.caps neighbours length level = some verdict) :
      verdict.confidence ≤ roundHundredths (policy.caps.atLevel level) := by
    obtain ⟨⟨count, _, hconfidence⟩, _⟩ := votes_of_verdict? hsome
    rw [hconfidence]
    exact voteConfidence_le_roundHundredths (Confidences.inUnitRange_iff.mp hcaps level).1 _ _ _ _
  cases level with
  | one => exact hverdict hlevel1
  | two => exact hverdict hlevel2
  | three => exact hverdict hlevel3

/-- One neighbour that shares the whole key has its confidences from the caps alone. -/
theorem exists_approximate?_of_agreement (hcaps : policy.caps.inUnitRange = true)
    (hfloor : policy.floor ≤ roundHundredths policy.caps.level1) (region : RegionCode) :
    ∃ approximation, approximate? policy ⟨1, [region]⟩ 1 = some approximation ∧
      ∀ level, approximation.confidenceAt level =
        roundHundredths (policy.caps.atLevel level) := by
  have hverdict (level : Level) : verdict? policy.caps ⟨1, [region]⟩ 1 level =
      some ⟨region.atLevel level, roundHundredths (policy.caps.atLevel level)⟩ := by
    have hone : (policy.caps.atLevel level) ≤ 1 := (Confidences.inUnitRange_iff.mp hcaps level).2
    unfold verdict?
    rw [plurality_eq]
    simp [mostFrequent?, voteConfidence_of_agreement hone]
  have habove : isBelow (roundHundredths policy.caps.level1) policy.floor = false := by
    rw [Bool.eq_false_iff, ne_eq, isBelow_iff]
    exact not_lt.mpr hfloor
  refine ⟨⟨⟨region.atLevel .one, roundHundredths policy.caps.level1⟩,
    ⟨region.atLevel .two, roundHundredths policy.caps.level2⟩,
    ⟨region.atLevel .three, roundHundredths policy.caps.level3⟩⟩, ?_, ?_⟩
  · unfold approximate?
    simp [hverdict, Confidences.atLevel, habove]
  · intro level
    cases level <;> rfl

end ApproximationPolicy

/-- The confidences of a level exceed its cap by half a hundredth at most, and they exceed it at all
unless the cap is rounded down or the floor lets no approximation through. -/
theorem Settings.limitsConfidence_cap_iff {settings : Settings Rat}
    (hvalid : settings.fault? = none) (level : Level) :
    settings.policy.LimitsConfidence level (settings.policy.caps.atLevel level + 1 / 200) ∧
      (settings.policy.LimitsConfidence level (settings.policy.caps.atLevel level) ↔
        Int.fract (100 * settings.policy.caps.atLevel level) < 1 / 2 ∨
          roundHundredths settings.policy.caps.level1 < settings.policy.floor) := by
  have hcaps : settings.policy.caps.inUnitRange = true := (inUnitRange_of_fault? hvalid).1
  have hcap : 0 ≤ settings.policy.caps.atLevel level :=
    (Confidences.inUnitRange_iff.mp hcaps level).1
  have hlimit {limit : Rat}
      (hrounded : roundHundredths (settings.policy.caps.atLevel level) ≤ limit) :
      settings.policy.LimitsConfidence level limit := by
    intro neighbours length approximation _ happroximate
    exact (ApproximationPolicy.confidenceAt_le_roundHundredths hcaps happroximate level).trans
      hrounded
  refine ⟨hlimit (roundHundredths_le_add hcap), ?_⟩
  rw [← roundHundredths_le_iff hcap]
  constructor
  · intro hkept
    rw [or_iff_not_imp_right, not_lt]
    intro hfloor
    obtain ⟨approximation, happroximate, hconfidence⟩ :=
      ApproximationPolicy.exists_approximate?_of_agreement hcaps hfloor ⟨"AT130", by decide⟩
    rw [← hconfidence level]
    exact hkept _ 1 approximation le_rfl happroximate
  · rintro (hdown | hfloor)
    · exact hlimit hdown
    · -- Below the floor there is no approximation at all.
      intro neighbours length approximation _ happroximate
      have hrounded := ApproximationPolicy.confidenceAt_le_roundHundredths hcaps happroximate .one
      obtain ⟨_, _, _, habove⟩ := verdicts_of_approximate? happroximate
      rw [Bool.eq_false_iff, ne_eq, isBelow_iff] at habove
      exact absurd (lt_of_le_of_lt hrounded hfloor) habove

/-- Caps of an eighth, which become thirteen hundredths, and a floor between the two. -/
def Settings.withEighths : Settings Rat :=
  { (Settings.standard : Settings Rat) with policy := ⟨⟨1 / 8, 1 / 8, 1 / 8⟩, 16 / 125⟩ }

theorem Settings.withEighths_exceeds_caps :
    Settings.withEighths.fault? = none ∧
      ∀ level, ¬ Settings.withEighths.policy.LimitsConfidence level (1 / 8) := by
  have hvalid : Settings.withEighths.fault? = none := by decide +kernel
  refine ⟨hvalid, ?_⟩
  intro level hkept
  have hcap : Settings.withEighths.policy.caps.atLevel level = 1 / 8 := by cases level <;> rfl
  have hiff := (Settings.limitsConfidence_cap_iff hvalid level).2
  rw [hcap] at hiff
  rcases hiff.mp hkept with hdown | hfloor
  · have hhalf : Int.fract (100 * (1 / 8) : Rat) = 1 / 2 := by norm_num [Int.fract]
    rw [hhalf] at hdown
    exact lt_irrefl _ hdown
  · have hrounded : roundHundredths (1 / 8 : Rat) = 13 / 100 := by decide +kernel
    have hless : roundHundredths (1 / 8 : Rat) < 16 / 125 := hfloor
    rw [hrounded] at hless
    norm_num at hless

end PostalRegions
