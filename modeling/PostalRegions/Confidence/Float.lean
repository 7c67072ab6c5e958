import PostalRegions.Confidence.Basic

/-!
# Confidences in 64-bit floats

The numbers the service computes with.  Counts below `2^64` become floats in one rounding.
-/

namespace PostalRegions

instance Confidence.float : Confidence Float where
  ofLiteral := DecimalLiteral.toFloat
  notFinite := 0.0 / 0.0
  ratio count total := count.toUInt64.toFloat / total.toUInt64.toFloat
  times first second := first * second
  smaller first second := if second < first then second else first
  isBelow first second := first < second
  isAtMost first second := first ≤ second
  roundHundredths value := (value * 100.0).round / 100.0

end PostalRegions
