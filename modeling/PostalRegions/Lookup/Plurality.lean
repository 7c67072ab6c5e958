/-!
# Plurality votes

The most frequent of some votes; of equally frequent ones the one that was cast first.
-/

namespace PostalRegions

structure Tally (α : Type) where
  candidate : α
  first : Nat
  count : Nat
deriving DecidableEq, Repr

def Tally.beats {α : Type} (one other : Tally α) : Bool :=
  other.count < one.count || (one.count == other.count && one.first < other.first)

/-- The best of the tallies; of equally good ones the last. -/
def Tally.best {α : Type} : List (Tally α) → Option (Tally α)
  | [] => none
  | one :: others =>
    match Tally.best others with
    | none => some one
    | some other => some (if one.beats other then one else other)

/-- The tallies with one more vote, that at the given position.  Only a candidate's first vote has
its position noted. -/
def Tally.record {α : Type} [BEq α] (vote : α) (position : Nat) :
    List (Tally α) → List (Tally α)
  | [] => [⟨vote, position, 1⟩]
  | tally :: others =>
    if tally.candidate == vote then { tally with count := tally.count + 1 } :: others
    else tally :: Tally.record vote position others

/-- The tallies of all votes, recorded one after the other: one for each candidate. -/
def tallies {α : Type} [BEq α] (votes : List α) : List (Tally α) :=
  votes.zipIdx.foldl (fun tallied (vote, position) => Tally.record vote position tallied) []

def plurality {α : Type} [BEq α] (votes : List α) : Option (α × Nat) :=
  (Tally.best (tallies votes)).map fun tally => (tally.candidate, tally.count)

end PostalRegions
