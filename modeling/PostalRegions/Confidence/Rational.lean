import PostalRegions.Confidence.Basic

/-!
# Confidences in exact rationals

The same arithmetic without rounding errors.  Statements about the size of confidences are made
over these numbers.
-/

namespace PostalRegions

/-- The whole number nearest to `numerator / denominator`; a half goes away from zero. -/
def roundHalfAway (numerator : Int) (denominator : Nat) : Int :=
  numerator.sign * ((2 * numerator.natAbs + denominator) / (2 * denominator) : Nat)

def DecimalLiteral.toRat (literal : DecimalLiteral) : Rat :=
  let digits : Int := if literal.negative then -(literal.digits : Int) else literal.digits
  if 0 ≤ literal.exponent then mkRat (digits * Nat.pow 10 literal.exponent.toNat) 1
  else mkRat digits (Nat.pow 10 (-literal.exponent).toNat)

instance Confidence.rational : Confidence Rat where
  ofLiteral := DecimalLiteral.toRat
  notFinite := mkRat 2 1
  ratio count total := mkRat count total
  times := Rat.mul
  smaller first second := if Rat.blt second first then second else first
  isBelow := Rat.blt
  isAtMost first second := !Rat.blt second first
  roundHundredths value := mkRat (roundHalfAway (100 * value.num) value.den) 100

end PostalRegions
