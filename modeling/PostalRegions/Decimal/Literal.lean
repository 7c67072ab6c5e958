/-!
# Decimal literals

A decimal number as it is written: a sign, digits and a power of ten.  The reading of the
nearest 64-bit float and the test for a literal beyond the floats' range work on this form.
-/

namespace PostalRegions

/-- The number `(-1)^negative * digits * 10^exponent`. -/
structure DecimalLiteral where
  negative : Bool
  digits : Nat
  exponent : Int
deriving DecidableEq, Repr

namespace DecimalLiteral

def ofInt (value : Int) : DecimalLiteral :=
  ⟨value < 0, value.natAbs, 0⟩

def width (literal : DecimalLiteral) : Nat :=
  (Nat.toDigits 10 literal.digits).length

/-- The power of ten just above the number; beyond 400 either way a float is infinite or zero. -/
def magnitude (literal : DecimalLiteral) : Int :=
  literal.width + literal.exponent

/-- The least number, as a whole number, that rounds to an infinite float. -/
def floatOverflow : Nat :=
  Nat.pow 2 1024 - Nat.pow 2 970

def overflowsFloat (literal : DecimalLiteral) : Bool :=
  if literal.digits = 0 then false
  else if 400 < literal.magnitude then true
  else if literal.magnitude < 300 then false
  else if 0 ≤ literal.exponent then
    floatOverflow ≤ literal.digits * Nat.pow 10 literal.exponent.toNat
  else floatOverflow * Nat.pow 10 (-literal.exponent).toNat ≤ literal.digits

def toFloat (literal : DecimalLiteral) : Float :=
  let size : Float :=
    if literal.digits = 0 || literal.magnitude < -400 then 0.0
    else if 400 < literal.magnitude then 1.0 / 0.0
    else Float.ofScientific literal.digits (literal.exponent < 0) literal.exponent.natAbs
  if literal.negative then -size else size

end DecimalLiteral

end PostalRegions
