import Mathlib.Data.Rat.Floor
import Mathlib.Tactic.GCongr
import Mathlib.Tactic.Linarith
import PostalRegions.Confidence.Rational
import PostalRegions.Lookup.Approximation

/-!
# Confidences in the unit range

In exact arithmetic a vote has a confidence between 0 and 1, whatever its counts are.  Shares of
votes and of keys are at most 1, a cap only lowers them, and rounding to hundredths does not leave
the unit range, since it keeps the order and both bounds are whole numbers of hundredths.
-/

namespace PostalRegions

namespace Confidence

variable {first second value : Rat}

theorem isBelow_iff : isBelow first second = true ↔ first < second :=
  Iff.rfl

theorem isAtMost_iff : isAtMost first second = true ↔ first ≤ second := by
  have hnot : isAtMost first second = true ↔ ¬ isBelow second first = true := by
    change (!isBelow second first) = true ↔ _
    simp
  rw [hnot, isBelow_iff, not_lt]

theorem zero_eq : (zero : Rat) = 0 := by
  decide

theorem one_eq : (one : Rat) = 1 := by
  decide

theorem inUnitRange_iff : inUnitRange value = true ↔ 0 ≤ value ∧ value ≤ 1 := by
  simp [inUnitRange, isAtMost_iff, zero_eq, one_eq]

/-! ## Rounding -/

theorem roundHalfAway_natCast (numerator : Nat) {denominator : Nat}
    (hdenominator : 0 < denominator) :
    roundHalfAway numerator denominator =
      ((2 * numerator + denominator) / (2 * denominator) : Nat) := by
  unfold roundHalfAway
  rw [Int.natAbs_natCast]
  cases numerator with
  | zero =>
      have hless : 2 * 0 + denominator < 2 * denominator := by omega
      rw [Nat.div_eq_of_lt hless]
      rfl
  | succ smaller =>
      have hsign : ((smaller + 1 : Nat) : Int).sign = 1 := by simp
      rw [hsign, one_mul]

/-- Rounding a number that is not negative adds a half and drops the rest. -/
theorem roundHundredths_eq_floor (hvalue : 0 ≤ value) :
    roundHundredths value = (⌊100 * value + 1 / 2⌋ : Rat) / 100 := by
  obtain ⟨count, hcount⟩ := Int.eq_ofNat_of_zero_le (Rat.num_nonneg.mpr hvalue)
  have hfraction : value = count / value.den := by
    rw [← Int.cast_natCast, ← hcount, Rat.num_div_den]
  have hden : (value.den : Rat) ≠ 0 := by exact_mod_cast value.den_nz
  have hhalf : 100 * value + 1 / 2 =
      ((2 * (100 * count) + value.den : Nat) : Rat) / ((2 * value.den : Nat) : Rat) := by
    push_cast
    rw [eq_div_iff (by positivity)]
    nth_rewrite 1 [hfraction]
    field_simp
  have hrounded : roundHalfAway (100 * value.num) value.den = ⌊100 * value + 1 / 2⌋ := by
    have hnumerator : 100 * value.num = ((100 * count : Nat) : Int) := by
      rw [hcount]
      push_cast
      rfl
    rw [hhalf, Rat.floor_natCast_div_natCast, hnumerator,
      roundHalfAway_natCast _ (Nat.pos_of_ne_zero value.den_nz), Int.natCast_ediv]
  change mkRat (roundHalfAway (100 * value.num) value.den) 100 = _
  rw [hrounded, Rat.mkRat_eq_div]
  norm_num

theorem roundHundredths_zero : roundHundredths (0 : Rat) = 0 := by
  decide

theorem roundHundredths_neg (value : Rat) : roundHundredths (-value) = -roundHundredths value := by
  have hrounded : roundHalfAway (100 * (-value).num) (-value).den =
      -roundHalfAway (100 * value.num) value.den := by
    unfold roundHalfAway
    rw [Rat.num_neg_eq_neg_num, Rat.den_neg_eq_den, mul_neg, Int.sign_neg, Int.natAbs_neg,
      neg_mul]
  change mkRat (roundHalfAway (100 * (-value).num) (-value).den) 100 =
    -mkRat (roundHalfAway (100 * value.num) value.den) 100
  rw [hrounded, Rat.neg_mkRat]

/-- Rounding keeps the order of numbers that are not negative. -/
theorem roundHundredths_le_roundHundredths (hfirst : 0 ≤ first) (hsecond : first ≤ second) :
    roundHundredths first ≤ roundHundredths second := by
  rw [roundHundredths_eq_floor hfirst, roundHundredths_eq_floor (hfirst.trans hsecond)]
  gcongr

/-- A half goes away from zero, so the numbers below zero mirror those above it, and rounding keeps
the order of all numbers. -/
theorem roundHundredths_mono (hless : first ≤ second) :
    roundHundredths first ≤ roundHundredths second := by
  rcases le_total 0 first with hfirst | hfirst
  · exact roundHundredths_le_roundHundredths hfirst hless
  · rcases le_total 0 second with hsecond | hsecond
    · have hbelow := roundHundredths_le_roundHundredths le_rfl (neg_nonneg.mpr hfirst)
      have habove := roundHundredths_le_roundHundredths le_rfl hsecond
      rw [roundHundredths_zero] at hbelow habove
      rw [roundHundredths_neg] at hbelow
      linarith
    · have hmirrored := roundHundredths_le_roundHundredths (neg_nonneg.mpr hsecond)
        (neg_le_neg hless)
      rw [roundHundredths_neg, roundHundredths_neg] at hmirrored
      linarith

theorem roundHundredths_le_add (hvalue : 0 ≤ value) : roundHundredths value ≤ value + 1 / 200 := by
  have hfloor : (⌊100 * value + 1 / 2⌋ : Rat) ≤ 100 * value + 1 / 2 := Int.floor_le _
  rw [roundHundredths_eq_floor hvalue, div_le_iff₀ (by norm_num)]
  linarith

theorem roundHundredths_one : roundHundredths (1 : Rat) = 1 := by
  decide

theorem inUnitRange_roundHundredths (hvalue : inUnitRange value = true) :
    inUnitRange (roundHundredths value) = true := by
  obtain ⟨hnonneg, hone⟩ := inUnitRange_iff.mp hvalue
  have hlower := roundHundredths_le_roundHundredths le_rfl hnonneg
  have hupper := roundHundredths_le_roundHundredths hnonneg hone
  rw [roundHundredths_zero] at hlower
  rw [roundHundredths_one] at hupper
  exact inUnitRange_iff.mpr ⟨hlower, hupper⟩

/-! ## Votes -/

theorem smaller_eq_min (first second : Rat) : smaller first second = min first second := by
  change (if second < first then second else first) = min first second
  rw [min_comm, min_def_lt]

theorem ratio_eq_div (count total : Nat) : (ratio count total : Rat) = count / total := by
  change mkRat count total = _
  rw [Rat.mkRat_eq_div, Int.cast_natCast]

theorem inUnitRange_ratio {count total : Nat} (hcount : count ≤ total) :
    inUnitRange (ratio count total : Rat) = true := by
  have hcast : (count : Rat) ≤ total := by exact_mod_cast hcount
  rw [inUnitRange_iff, ratio_eq_div]
  constructor
  · positivity
  · exact div_le_one_of_le₀ hcast (by positivity)

theorem inUnitRange_times (hfirst : inUnitRange first = true)
    (hsecond : inUnitRange second = true) :
    inUnitRange (times first second) = true := by
  obtain ⟨hfirst, hfirstOne⟩ := inUnitRange_iff.mp hfirst
  obtain ⟨hsecond, hsecondOne⟩ := inUnitRange_iff.mp hsecond
  change inUnitRange (first * second) = true
  exact inUnitRange_iff.mpr
    ⟨mul_nonneg hfirst hsecond, mul_le_one₀ hfirstOne hsecond hsecondOne⟩

theorem inUnitRange_smaller (hfirst : inUnitRange first = true)
    (hsecond : inUnitRange second = true) : inUnitRange (smaller first second) = true := by
  change inUnitRange (if Rat.blt second first then second else first) = true
  split
  · exact hsecond
  · exact hfirst

theorem inUnitRange_voteConfidence {cap : Rat} {count total matched length : Nat}
    (hcap : inUnitRange cap = true) (hcount : count ≤ total) (hmatched : matched ≤ length) :
    inUnitRange (voteConfidence cap count total matched length) = true := by
  unfold voteConfidence
  apply inUnitRange_roundHundredths
  apply inUnitRange_smaller _ hcap
  exact inUnitRange_times (inUnitRange_ratio hcount) (inUnitRange_ratio hmatched)

end Confidence

end PostalRegions
