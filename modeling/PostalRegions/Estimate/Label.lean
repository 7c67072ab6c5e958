import PostalRegions.Confidence.Basic
import PostalRegions.Text.Blank

/-!
# Confidence labels

An estimate carries a label instead of numbers.  The confidence table says what numbers a label
stands for.
-/

namespace PostalRegions

inductive ConfidenceLabel where
  | high
  | medium
  | low
deriving DecidableEq, Repr

namespace ConfidenceLabel

def name : ConfidenceLabel → String
  | .high => "high"
  | .medium => "medium"
  | .low => "low"

/-- Reads a label in any letter case and with blanks around it. -/
def parse? (text : String) : Option ConfidenceLabel :=
  let word := (Text.trim text).map Char.toLower
  [.high, .medium, .low].find? fun label => label.name == word

end ConfidenceLabel

structure ConfidenceTable (κ : Type) where
  high : Confidences κ
  medium : Confidences κ
  low : Confidences κ
deriving DecidableEq, Repr

namespace ConfidenceTable

variable {κ : Type}

def forLabel (table : ConfidenceTable κ) : ConfidenceLabel → Confidences κ
  | .high => table.high
  | .medium => table.medium
  | .low => table.low

/-- The confidences that hold unless others are set. -/
def standard [Confidence κ] : ConfidenceTable κ :=
  ⟨Confidences.ofHundredths 95 90 85, Confidences.ofHundredths 85 70 55,
    Confidences.ofHundredths 60 45 30⟩

def inUnitRange [Confidence κ] (table : ConfidenceTable κ) : Bool :=
  [table.high, table.medium, table.low].all Confidences.inUnitRange

end ConfidenceTable

end PostalRegions
