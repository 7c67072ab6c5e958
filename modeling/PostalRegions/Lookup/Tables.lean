import PostalRegions.Entry.Filing
import PostalRegions.Lookup.Approximation

/-!
# Region lookup

A query is answered from the first source that knows its key: the exact table, the estimates,
and last an approximation from the neighbours of the key.
-/

namespace PostalRegions

inductive MatchKind where
  | exact
  | estimated
  | approximate
deriving DecidableEq, Repr

def MatchKind.name : MatchKind → String
  | .exact => "exact"
  | .estimated => "estimated"
  | .approximate => "approximate"

structure RegionMatch (κ : Type) where
  kind : MatchKind
  level1 : String
  level2 : String
  level3 : String
  confidences : Confidences κ
deriving DecidableEq, Repr

namespace RegionMatch

variable {κ : Type}

def ofRegion [Confidence κ] (region : RegionCode) : RegionMatch κ :=
  ⟨.exact, region.atLevel .one, region.atLevel .two, region.atLevel .three, Confidences.full⟩

def ofEstimate (estimate : Estimate κ) : RegionMatch κ :=
  ⟨.estimated, estimate.level1, estimate.level2, estimate.level3, estimate.confidences⟩

def ofApproximation (approximation : Approximation κ) : RegionMatch κ :=
  ⟨.approximate, approximation.level1.code, approximation.level2.code, approximation.level3.code,
    approximation.level1.confidence, approximation.level2.confidence,
    approximation.level3.confidence⟩

end RegionMatch

/-- Everything a lookup reads.  The index belongs to the exact table. -/
structure LookupTables (κ : Type) where
  exact : ExactTable
  estimates : EstimateTable κ
  policy : ApproximationPolicy κ
  index : PrefixIndex
  index_eq : index = PrefixIndex.ofTable exact

namespace LookupTables

variable {κ : Type}

def ofTables (exact : ExactTable) (estimates : EstimateTable κ)
    (policy : ApproximationPolicy κ) : LookupTables κ :=
  ⟨exact, estimates, policy, PrefixIndex.ofTable exact, rfl⟩

def find? [Confidence κ] (tables : LookupTables κ) (key : EntryKey) : Option (RegionMatch κ) :=
  match tables.exact[key]?, tables.estimates[key]? with
  | some region, _ => some (.ofRegion region)
  | none, some estimate => some (.ofEstimate estimate)
  | none, none => do
    let neighbours ← tables.index.neighbours? key
    let approximation ← approximate? tables.policy neighbours key.length
    return .ofApproximation approximation

/-- Where an answer comes from. -/
theorem find?_cases [Confidence κ] {tables : LookupTables κ} {key : EntryKey}
    {answer : RegionMatch κ} (hfind : tables.find? key = some answer) :
    (∃ region, tables.exact[key]? = some region ∧ answer = .ofRegion region) ∨
      (∃ estimate, tables.estimates[key]? = some estimate ∧ answer = .ofEstimate estimate) ∨
      ∃ neighbours approximation, tables.index.neighbours? key = some neighbours ∧
        approximate? tables.policy neighbours key.length = some approximation ∧
        answer = .ofApproximation approximation := by
  unfold find? at hfind
  cases hexact : tables.exact[key]? with
  | some region =>
      rw [hexact] at hfind
      exact Or.inl ⟨region, rfl, (Option.some.inj hfind).symm⟩
  | none =>
      cases hestimate : tables.estimates[key]? with
      | some estimate =>
          rw [hexact, hestimate] at hfind
          exact Or.inr (Or.inl ⟨estimate, rfl, (Option.some.inj hfind).symm⟩)
      | none =>
          rw [hexact, hestimate] at hfind
          obtain ⟨neighbours, hneighbours, hrest⟩ := Option.bind_eq_some_iff.mp hfind
          obtain ⟨approximation, happroximate, hrest⟩ := Option.bind_eq_some_iff.mp hrest
          exact Or.inr (Or.inr ⟨neighbours, approximation, hneighbours, happroximate,
            (Option.some.inj hrest).symm⟩)

def lookup [Confidence κ] (tables : LookupTables κ) (country postalCode : String) :
    Option (RegionMatch κ) :=
  (EntryKey.ofQuery? country postalCode).bind tables.find?

end LookupTables

end PostalRegions
