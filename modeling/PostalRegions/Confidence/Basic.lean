import PostalRegions.Decimal.Literal
import PostalRegions.Region.Level

/-!
# Confidences

What the lookup asks of the numbers that serve as confidences, and the triple of one confidence
per level.  Everything that carries confidences is stated over any such numbers; the service
runs on 64-bit floats.
-/

namespace PostalRegions

class Confidence (κ : Type) where
  ofLiteral : DecimalLiteral → κ
  /-- What a literal that denotes no finite number is read as; it lies outside the unit range. -/
  notFinite : κ
  ratio : Nat → Nat → κ
  times : κ → κ → κ
  smaller : κ → κ → κ
  isBelow : κ → κ → Bool
  isAtMost : κ → κ → Bool
  /-- The nearest whole number of hundredths; a half goes away from zero. -/
  roundHundredths : κ → κ

namespace Confidence

variable {κ : Type} [Confidence κ]

def hundredths (count : Nat) : κ :=
  ofLiteral ⟨false, count, -2⟩

def zero : κ :=
  ofLiteral ⟨false, 0, 0⟩

def one : κ :=
  ofLiteral ⟨false, 1, 0⟩

def inUnitRange (value : κ) : Bool :=
  isAtMost zero value && isAtMost value one

end Confidence

structure Confidences (κ : Type) where
  level1 : κ
  level2 : κ
  level3 : κ
deriving DecidableEq, Repr

namespace Confidences

variable {κ : Type}

def atLevel (confidences : Confidences κ) : Level → κ
  | .one => confidences.level1
  | .two => confidences.level2
  | .three => confidences.level3

def full [Confidence κ] : Confidences κ :=
  ⟨Confidence.one, Confidence.one, Confidence.one⟩

def ofHundredths [Confidence κ] (level1 level2 level3 : Nat) : Confidences κ :=
  ⟨Confidence.hundredths level1, Confidence.hundredths level2, Confidence.hundredths level3⟩

def inUnitRange [Confidence κ] (confidences : Confidences κ) : Bool :=
  Level.all.all fun level => Confidence.inUnitRange (confidences.atLevel level)

end Confidences

end PostalRegions
