import PostalRegions.Dataset.Rebuild

/-!
# The published dataset

The settings of a running service and the generation it answers from.  A rebuild publishes the
next generation at once, when it is complete.
-/

namespace PostalRegions

structure Dataset (κ : Type) where
  settings : Settings κ
  current : Generation κ

namespace Dataset

variable {κ : Type} [DatabaseFormat κ]

def ofSettings [Confidence κ] (settings : Settings κ) : Dataset κ :=
  ⟨settings, .initial⟩

def rebuild (dataset : Dataset κ) (fetcher : Fetcher) (directory : DataDirectory κ)
    (clock : Nat) (wall : WallClock) : Dataset κ × Rebuilt κ :=
  let rebuilt := dataset.settings.rebuild fetcher directory clock wall
  ({ dataset with current := rebuilt.generation }, rebuilt)

/-- Publishes one generation after another, so many of them. -/
def rebuildTimes (fetcher : Fetcher) (wall : WallClock) :
    Nat → Dataset κ → DataDirectory κ → Nat → Dataset κ × DataDirectory κ × Nat
  | 0, dataset, directory, clock => (dataset, directory, clock)
  | count + 1, dataset, directory, clock =>
    let (dataset, rebuilt) := dataset.rebuild fetcher directory clock wall
    rebuildTimes fetcher wall count dataset rebuilt.directory rebuilt.clock

/-- Whether rebuilds follow one another at an interval; without an interval there are none. -/
def refreshes (interval : Nat) : Bool :=
  interval != 0

end Dataset

end PostalRegions
