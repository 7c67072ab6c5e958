import PostalRegions.Text.Numeral

/-!
# Fixed-point text of a float

A 64-bit float written with a fixed number of places.  The float is taken apart into
`significand * 2^power` and rounded in exact whole-number arithmetic; a tie goes to the even
neighbour.
-/

namespace PostalRegions.Decimal

/-- The whole number nearest to `numerator / denominator`; a tie goes to the even one. -/
def roundQuotient (numerator denominator : Nat) : Nat :=
  let quotient := numerator / denominator
  let twice := 2 * (numerator % denominator)
  if twice < denominator then quotient
  else if denominator < twice then quotient + 1
  else quotient + quotient % 2

/-- A finite float as `significand * 2^power`. -/
def binaryParts (value : Float) : Nat × Int :=
  let bits : Nat := value.toBits.toNat
  let fraction : Nat := bits % Nat.pow 2 52
  let field : Nat := bits / Nat.pow 2 52 % Nat.pow 2 11
  if field = 0 then (fraction, -1074) else (fraction + Nat.pow 2 52, (field : Int) - 1075)

def scaledMagnitude (places : Nat) (value : Float) : Nat :=
  let (significand, power) := binaryParts value
  if 0 ≤ power then significand * Nat.pow 10 places * Nat.pow 2 power.toNat
  else roundQuotient (significand * Nat.pow 10 places) (Nat.pow 2 (-power).toNat)

def fixed (places : Nat) (value : Float) : String :=
  let scaled := scaledMagnitude places value
  let sign := if value.toBits.toNat / Nat.pow 2 63 = 1 then "-" else ""
  let whole := toString (scaled / Nat.pow 10 places)
  if places = 0 then sign ++ whole
  else sign ++ whole ++ "." ++ String.ofList (Text.padded places (scaled % Nat.pow 10 places))

end PostalRegions.Decimal
