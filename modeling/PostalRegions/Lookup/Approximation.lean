import PostalRegions.Confidence.Basic
import PostalRegions.Lookup.Plurality
import PostalRegions.Lookup.PrefixIndex

/-!
# Approximation from neighbours

Neighbouring postal codes tend to share regions.  Each level of an approximation is decided by a
plurality vote among the neighbours, and its confidence is the winner's share of the votes,
scaled by the part of the key that the neighbours share.
-/

namespace PostalRegions

structure ApproximationPolicy (κ : Type) where
  /-- The greatest confidence per level. -/
  caps : Confidences κ
  /-- The least confidence at the coarsest level. -/
  floor : κ
deriving DecidableEq, Repr

/-- The bounds that hold unless others are set. -/
def ApproximationPolicy.standard {κ : Type} [Confidence κ] : ApproximationPolicy κ :=
  ⟨Confidences.ofHundredths 90 80 60, Confidence.hundredths 30⟩

structure Verdict (κ : Type) where
  code : String
  confidence : κ
deriving DecidableEq, Repr

structure Approximation (κ : Type) where
  level1 : Verdict κ
  level2 : Verdict κ
  level3 : Verdict κ
deriving DecidableEq, Repr

variable {κ : Type} [Confidence κ]

def voteConfidence (cap : κ) (count total matched length : Nat) : κ :=
  Confidence.roundHundredths
    (Confidence.smaller
      (Confidence.times (Confidence.ratio count total) (Confidence.ratio matched length)) cap)

def verdict? (caps : Confidences κ) (neighbours : Neighbours) (length : Nat) (level : Level) :
    Option (Verdict κ) :=
  (plurality (neighbours.votes.map (·.atLevel level))).map fun (code, count) =>
    ⟨code, voteConfidence (caps.atLevel level) count neighbours.votes.length neighbours.matched
      length⟩

/-- The regions that the neighbours suggest for a key of so many characters.  Without votes, for
an empty key, or below the floor there is no answer. -/
def approximate? (policy : ApproximationPolicy κ) (neighbours : Neighbours) (length : Nat) :
    Option (Approximation κ) :=
  if neighbours.votes.isEmpty || length == 0 then none
  else do
    let level1 ← verdict? policy.caps neighbours length .one
    if Confidence.isBelow level1.confidence policy.floor then none
    else
      let level2 ← verdict? policy.caps neighbours length .two
      let level3 ← verdict? policy.caps neighbours length .three
      return ⟨level1, level2, level3⟩

end PostalRegions
